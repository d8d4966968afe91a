import FarmRegistry.Proofs.Wire.Decoding
import FarmRegistry.Wire.Envelope

namespace FarmRegistry

open Json

namespace Text

theorem allBlank_trimLeft (cs : List Char) : (trimLeft cs).all isBlank = cs.all isBlank := by
  induction cs with
  | nil => rfl
  | cons c cs ih => by_cases h : isBlank c <;> simp [trimLeft, h, ih]

theorem trim_eq_nil_iff (s : String) : trim s.toList = [] ↔ allBlank s := by
  rw [trim, List.reverse_eq_nil_iff, trimLeft_eq_nil_iff, List.all_reverse, allBlank_trimLeft, allBlank]

end Text

namespace ErrorCode

variable {c : ErrorCode} {j : Json}

theorem ofName?_eq_some_iff {s : String} : ofName? s = some c ↔ s = c.name := by
  constructor
  · intro h
    have hname := List.find?_some h
    exact (of_decide_eq_true hname).symm
  · rintro rfl
    exact ofName?_name c

theorem ofName_eq_ok_iff : ofName j = .ok c ↔ j = c.toJson := by
  rw [ofName, bind_eq_ok_iff, toJson]
  constructor
  · rintro ⟨s, hs, h⟩
    cases hc : ofName? s with
    | none =>
      rw [hc] at h
      cases h
    | some d =>
      rw [hc] at h
      cases h
      rw [text_eq_ok_iff.mp hs, ofName?_eq_some_iff.mp hc]
  · rintro rfl
    exact ⟨c.name, rfl, by rw [ofName?_name]; rfl⟩

def Told (j : Json) (c : ErrorCode) : Prop :=
  j = c.toJson ∨ j = .object [(c.name, .null)]

theorem ofJson_eq_ok_iff : ErrorCode.ofJson j = .ok c ↔ Told j c := by
  unfold ErrorCode.ofJson Told
  split
  · rename_i name
    rw [ofName_eq_ok_iff]
    simp [toJson]
  · rename_i hother
    rw [ofName_eq_ok_iff]
    constructor
    · exact .inl
    · rintro (h | h)
      · exact h
      · exact absurd h (hother c.name)

end ErrorCode

namespace Envelope

variable {e : Envelope} {j : Json} {fields : Fields}

def given : Json → Option Json
  | .null => none
  | d => some d

inductive Told : Json → ErrorCode → String → Option Json → Prop where
  | named {fields : Fields} {code : Json} {c : ErrorCode} {m : String} (hcode : fields.get? "code" = some code)
    (hknown : ErrorCode.Told code c) (hmessage : fields.get? "message" = some (.string m)) :
    Told (.object fields) c m (given ((fields.get? "details").getD .null))
  | listed {code details : Json} {c : ErrorCode} {m : String} (hknown : ErrorCode.Told code c) :
    Told (.array [code, .string m, details]) c m (given details)

theorem optional_ok (j : Json) : Decode.optional .ok j = .ok (given j) := by
  cases j <;> rfl

theorem parts_eq_ok_iff {c : ErrorCode} {m : String} {d : Option Json} : parts j = .ok (c, m, d) ↔ Told j c m d := by
  have hbuild (p : Parts) :
      (do return (← shape.required p 0 ErrorCode.ofJson, ← shape.required p 1 Decode.text, ← shape.nullable p 2 .ok) :
        Except DecodeError (ErrorCode × String × Option Json)) = .ok (c, m, d) ↔
        (∃ code, p.get? 0 "code" = some code ∧ ErrorCode.Told code c) ∧ p.get? 1 "message" = some (.string m) ∧
          shape.nullable p 2 .ok = .ok d := by
    simp only [bind_eq_ok_iff, required_eq_ok_iff, ErrorCode.ofJson_eq_ok_iff, text_eq_ok_iff]
    constructor
    · rintro ⟨_, hcode, _, ⟨_, hmessage, rfl⟩, _, hdetails, h⟩
      cases h
      exact ⟨hcode, hmessage, hdetails⟩
    · rintro ⟨hcode, hmessage, hdetails⟩
      exact ⟨c, hcode, m, ⟨_, hmessage, rfl⟩, d, hdetails, rfl⟩
  rw [parts, decode_eq_ok_iff]
  simp only [hbuild]
  simp only [nullable_named, nullable_listed_eq_ok_iff, optional_ok, Except.ok.injEq]
  constructor
  · rintro (⟨fields, rfl, ⟨code, hcode, hknown⟩, hmessage, rfl⟩ |
      ⟨items, rfl, ⟨⟨code, hcode, hknown⟩, hmessage, details, hdetails, rfl⟩, hlength⟩)
    · exact .named hcode hknown hmessage
    · obtain rfl : items = [code, .string m, details] :=
        items_eq hlength (by simpa using ⟨hcode, hmessage, hdetails⟩)
      exact .listed hknown
  · rintro (⟨hcode, hknown, hmessage⟩ | ⟨hknown⟩)
    · exact .inl ⟨_, rfl, ⟨_, hcode, hknown⟩, hmessage, rfl⟩
    · exact .inr ⟨_, rfl, ⟨⟨_, rfl, hknown⟩, rfl, _, rfl, rfl⟩, Nat.le_refl 3⟩

theorem ofMessage?_eq_some_iff {c : ErrorCode} {m : String} :
    ofMessage? c m = some e ↔ e.code = c ∧ e.message = m ∧ e.details = none := by
  unfold ofMessage?
  obtain ⟨code, message, details, hblank⟩ := e
  split
  · rename_i h
    simp only [reduceCtorEq, false_iff]
    rintro ⟨_, rfl, _⟩
    exact absurd h (by simp [hblank])
  · simp [eq_comm]

theorem exists_ofMessage?_iff {c : ErrorCode} {m : String} :
    (∃ e, ofMessage? c m = some e) ↔ Text.trim m.toList ≠ [] := by
  rw [Ne, Text.trim_eq_nil_iff, ofMessage?]
  split <;> simp_all

theorem ofJson_eq_ok_iff : Envelope.ofJson j = .ok e ↔ Told j e.code e.message e.details := by
  rw [Envelope.ofJson, bind_eq_ok_iff, ← parts_eq_ok_iff]
  constructor
  · rintro ⟨⟨c, m, d⟩, hparts, h⟩
    cases hmade : ofMessage? c m with
    | none => simp [hmade, throw, throwThe, MonadExceptOf.throw] at h
    | some made =>
      obtain ⟨rfl, rfl, _⟩ := ofMessage?_eq_some_iff.mp hmade
      simp only [hmade] at h
      cases h
      exact hparts
  · intro hparts
    have hmade : ofMessage? e.code e.message = some { e with details := none } :=
      ofMessage?_eq_some_iff.mpr ⟨rfl, rfl, rfl⟩
    refine ⟨_, hparts, ?_⟩
    simp only [hmade]
    rfl

theorem told_toJson (e : Envelope) : Told e.toJson e.code e.message (e.details.bind given) := by
  have hcode : ErrorCode.Told e.code.toJson e.code := .inl rfl
  obtain ⟨code, message, details, hblank⟩ := e
  cases details with
  | none => exact .named rfl hcode rfl
  | some d => exact .named rfl hcode rfl

theorem ofJson_toJson (e : Envelope) : Envelope.ofJson e.toJson = .ok { e with details := e.details.bind given } :=
  ofJson_eq_ok_iff.mpr e.told_toJson

theorem ofJson_toJson_eq_iff : Envelope.ofJson e.toJson = .ok e ↔ e.details ≠ some .null := by
  rw [ofJson_toJson, Except.ok.injEq]
  obtain ⟨code, message, details, hblank⟩ := e
  rcases details with _ | d
  · simp
  · cases d <;> simp [given]

theorem exists_made (e : Envelope) :
    ∃ made, ofMessage? e.code e.message = some made ∧ (e = made ∨ ∃ d, e = made.withDetails d) := by
  refine ⟨{ e with details := none }, ofMessage?_eq_some_iff.mpr ⟨rfl, rfl, rfl⟩, ?_⟩
  obtain ⟨code, message, details, hblank⟩ := e
  cases details with
  | none => exact .inl rfl
  | some d => exact .inr ⟨d, rfl⟩

def Readable (fields : Fields) : Prop :=
  ∃ code c m, fields.get? "code" = some code ∧ ErrorCode.Told code c ∧ fields.get? "message" = some (.string m) ∧
    Text.trim m.toList ≠ []

def NoOthers (fields : Fields) : Prop :=
  ∀ f ∈ fields, f.1 ∈ shape.names

theorem exists_ofJson_object_iff : (∃ e, Envelope.ofJson (.object fields) = .ok e) ↔ Readable fields := by
  constructor
  · rintro ⟨e, h⟩
    have hmade := exists_ofMessage?_iff.mp ⟨_, e.exists_made.choose_spec.1⟩
    have htold := ofJson_eq_ok_iff.mp h
    generalize e.details = d at htold
    cases htold with
    | named hcode hknown hmessage => exact ⟨_, e.code, e.message, hcode, hknown, hmessage, hmade⟩
  · rintro ⟨code, c, m, hcode, hknown, hmessage, htrim⟩
    obtain ⟨made, hmade⟩ := exists_ofMessage?_iff (c := c).mpr htrim
    obtain ⟨rfl, rfl, _⟩ := ofMessage?_eq_some_iff.mp hmade
    exact ⟨{ made with details := _ }, ofJson_eq_ok_iff.mpr (.named hcode hknown hmessage)⟩

theorem details_envelope_ne (f : ServiceError) : f.envelope.details ≠ some .null := by
  cases f <;> simp [ServiceError.envelope, ServiceError.details]

/-- What is written of an envelope reads back, but details of null are lost. An object is read just when it is readable,
so those that are read have no other fields just when all readable ones have none. -/
theorem read_back_but_for_null (e : Envelope) (f : ServiceError) (j : Json) (fields : Fields) :
    ((∃ made, ofMessage? e.code e.message = some made ∧ (e = made ∨ ∃ d, e = made.withDetails d)) ∧
        Envelope.ofJson e.toJson = .ok { e with details := e.details.bind given } ∧
        (Envelope.ofJson e.toJson = .ok e ↔ e.details ≠ some .null)) ∧
      Envelope.ofJson f.envelope.toJson = .ok f.envelope ∧
      (Envelope.ofJson j = .ok e ↔ Told j e.code e.message e.details) ∧
      ((∃ e, Envelope.ofJson (.object fields) = .ok e) ↔ Readable fields) ∧
      (((∃ e, Envelope.ofJson (.object fields) = .ok e) → Readable fields ∧ NoOthers fields) ↔
        (Readable fields → NoOthers fields)) := by
  have hservice := ofJson_toJson_eq_iff.mpr (details_envelope_ne f)
  refine ⟨⟨e.exists_made, e.ofJson_toJson, ofJson_toJson_eq_iff⟩, hservice, ofJson_eq_ok_iff, ?_⟩
  rw [exists_ofJson_object_iff]
  exact ⟨Iff.rfl, ⟨fun h hread => (h hread).2, fun h hread => ⟨hread, h hread⟩⟩⟩

theorem null_is_lost :
    let later : Envelope := ⟨.conflict, "later", some .null, by decide⟩
    let crowded : Fields := [("code", .string "not_found"), ("message", .string "missing"), ("extra", .integer 1)]
    ((∃ made, ofMessage? .conflict "later" = some made ∧ later = made.withDetails .null) ∧
        Envelope.ofJson later.toJson = .ok { later with details := none } ∧ Envelope.ofJson later.toJson ≠ .ok later) ∧
      (∃ e, Envelope.ofJson (.object crowded) = .ok e) ∧ ¬NoOthers crowded := by
  intro later crowded
  have hmade : ofMessage? .conflict "later" = some { later with details := none } :=
    ofMessage?_eq_some_iff.mpr ⟨rfl, rfl, rfl⟩
  have hreadable : Readable crowded := ⟨_, .notFound, "missing", rfl, .inl rfl, rfl, by decide⟩
  refine ⟨⟨⟨_, hmade, rfl⟩, later.ofJson_toJson, ?_⟩, exists_ofJson_object_iff.mpr hreadable, ?_⟩
  · rw [Ne, ofJson_toJson_eq_iff]
    exact fun h => h rfl
  · intro h
    exact absurd (h ("extra", .integer 1) (by simp [crowded])) (by decide)

end Envelope

end FarmRegistry
