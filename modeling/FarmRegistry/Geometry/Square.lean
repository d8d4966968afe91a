import FarmRegistry.Geodesic.Series
import FarmRegistry.Geometry.Polygon

namespace FarmRegistry.Polygon

def squareRing (lng lat hectares : Float) : Ring :=
  let half := Float.sqrt (hectares * 10000) / 2
  let phi := Geodesic.radians lat
  let w := Float.sqrt (1 - Geodesic.eccentricitySquared * Geodesic.square (Float.sin phi))
  let meridional := Geodesic.equatorialRadius * (1 - Geodesic.eccentricitySquared) / (w * w * w)
  let primeVertical := Geodesic.equatorialRadius / w
  let degrees := fun (x : Float) => x * (180 / Geodesic.pi)
  let dLat := degrees (half / meridional)
  let dLng := degrees (half / (primeVertical * Float.cos phi))
  [⟨lng - dLng, lat - dLat⟩, ⟨lng + dLng, lat - dLat⟩, ⟨lng + dLng, lat + dLat⟩, ⟨lng - dLng, lat + dLat⟩,
    ⟨lng - dLng, lat - dLat⟩]

def square (lng lat hectares : Float) : Except RingDefect Polygon :=
  ofRing (squareRing lng lat hectares)

end FarmRegistry.Polygon
