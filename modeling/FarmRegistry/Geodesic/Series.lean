import FarmRegistry.Geodesic.Angle

namespace FarmRegistry.Geodesic

def evaluate (coefficients : List Float) (x : Float) : Float :=
  match coefficients with
  | [] => 0
  | c :: rest => rest.foldl (fun y c => y * x + c) c

structure Quotient where
  numerator : List Float
  denominator : Float

def Quotient.at (q : Quotient) (x : Float) : Float :=
  evaluate q.numerator x / q.denominator

def equatorialRadius : Float := 6378137

def flattening : Float := 1 / 298.257223563

def axisRatio : Float := 1 - flattening

def thirdFlattening : Float := flattening / (2 - flattening)

def eccentricitySquared : Float := flattening * (2 - flattening)

def secondEccentricitySquared : Float := eccentricitySquared / square axisRatio

def polarRadius : Float := equatorialRadius * axisRatio

def authalicRadiusSquared : Float :=
  (square equatorialRadius + square polarRadius *
    (Float.atanh (Float.sqrt eccentricitySquared) / Float.sqrt eccentricitySquared)) / 2

def distanceScale : Quotient := ⟨[1, 4, 64, 0], 256⟩

def distanceTerms : List Quotient :=
  [⟨[-1, 6, -16], 32⟩, ⟨[-9, 64, -128], 2048⟩, ⟨[9, -16], 768⟩, ⟨[3, -5], 512⟩, ⟨[-7], 1280⟩, ⟨[-7], 2048⟩]

def reducedScale : Quotient := ⟨[-11, -28, -192, 0], 256⟩

def reducedTerms : List Quotient :=
  [⟨[1, 2, 16], 32⟩, ⟨[35, 64, 384], 2048⟩, ⟨[15, 80], 768⟩, ⟨[7, 35], 512⟩, ⟨[63], 1280⟩, ⟨[77], 2048⟩]

def longitudeScale : List Quotient :=
  [⟨[-3], 128⟩, ⟨[-2, -3], 64⟩, ⟨[-1, -3, -1], 16⟩, ⟨[3, -1, -2], 8⟩, ⟨[1, -1], 2⟩, ⟨[1], 1⟩]

def longitudeTerms : List (List Quotient) :=
  [[⟨[3], 128⟩, ⟨[2, 5], 128⟩, ⟨[-1, 3, 3], 64⟩, ⟨[-1, 0, 1], 8⟩, ⟨[-1, 1], 4⟩],
    [⟨[5], 256⟩, ⟨[1, 3], 128⟩, ⟨[-3, -2, 3], 64⟩, ⟨[1, -3, 2], 32⟩],
    [⟨[7], 512⟩, ⟨[-10, 9], 384⟩, ⟨[5, -9, 5], 192⟩],
    [⟨[7], 512⟩, ⟨[-14, 7], 512⟩],
    [⟨[21], 2560⟩]]

def areaTerms : List (List Quotient) :=
  [[⟨[97], 15015⟩, ⟨[1088, 156], 45045⟩, ⟨[-224, -4784, 1573], 45045⟩,
      ⟨[-10656, 14144, -4576, -858], 45045⟩, ⟨[64, 624, -4576, 6864, -3003], 15015⟩,
      ⟨[100, 208, 572, 3432, -12012, 30030], 45045⟩],
    [⟨[1], 9009⟩, ⟨[-2944, 468], 135135⟩, ⟨[5792, 1040, -1287], 135135⟩,
      ⟨[5952, -11648, 9152, -2574], 135135⟩, ⟨[-64, -624, 4576, -6864, 3003], 135135⟩],
    [⟨[8], 10725⟩, ⟨[1856, -936], 225225⟩, ⟨[-8448, 4992, -1144], 225225⟩,
      ⟨[-1440, 4160, -4576, 1716], 225225⟩],
    [⟨[-136], 63063⟩, ⟨[1024, -208], 105105⟩, ⟨[3584, -3328, 1144], 315315⟩],
    [⟨[-128], 135135⟩, ⟨[-2560, 832], 405405⟩],
    [⟨[128], 99099⟩]]

def terms (polynomials : List (Float → Float)) (mult eps : Float) : List Float :=
  match polynomials with
  | [] => []
  | p :: rest => mult * p eps :: terms rest (mult * eps) eps

def atFlattening (table : List (List Quotient)) : List (Float → Float) :=
  table.map fun row =>
    let coefficients := row.map (Quotient.at · thirdFlattening)
    evaluate coefficients

def longitudeFactor (eps : Float) : Float :=
  evaluate (longitudeScale.map (Quotient.at · thirdFlattening)) eps

def longitudeSeries (eps : Float) : List Float :=
  terms (atFlattening longitudeTerms) eps eps

def areaSeries (eps : Float) : List Float :=
  terms (atFlattening areaTerms) 1 eps

def distanceSeries (eps : Float) : List Float :=
  terms (distanceTerms.map fun q x => q.at (square x)) eps eps

def reducedSeries (eps : Float) : List Float :=
  terms (reducedTerms.map fun q x => q.at (square x)) eps eps

def distanceExcess (eps : Float) : Float :=
  (distanceScale.at (square eps) + eps) / (1 - eps)

def reducedExcess (eps : Float) : Float :=
  (reducedScale.at (square eps) - eps) / (1 + eps)

def recurrence (d : Direction) (coefficients : List Float) : Float × Float :=
  let twice := 2 * (d.cos - d.sin) * (d.cos + d.sin)
  coefficients.foldr (fun c (y, previous) => (twice * y - previous + c, y)) (0, 0)

def sineSum (d : Direction) (coefficients : List Float) : Float :=
  2 * d.sin * d.cos * (recurrence d coefficients).1

def cosineSum (d : Direction) (coefficients : List Float) : Float :=
  let (y, previous) := recurrence d coefficients
  d.cos * (y - previous)

def sineSumBetween (a b : Direction) (coefficients : List Float) : Float :=
  sineSum b coefficients - sineSum a coefficients

end FarmRegistry.Geodesic
