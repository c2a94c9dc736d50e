import Folio.Fit.Measurement
import Folio.Proofs.Document.Declared

/-!
# Measurements that can be read

A measurement is read from an object whose index, width and width of the column can be converted
(`Reads`); every other item of a report is passed over. One kind of item spoils the report: an
object with a number that is too large to hold, behind others that can be read (`Overflows`).
-/

namespace Folio

open Number

variable {α : Type} [Scalar α]

/-!
## Numbers that are too large
-/

/-- Whether a value is an infinity, which no whole number stands for. -/
def Value.IsInfinite (v : Value α) : Prop :=
  exists x negative, v = .real x ∧ Scalar.exact x = .infinite negative

/-- Whether a value is a whole number that would be rounded to an infinity. -/
def Value.IsImmense (v : Value Float) : Prop :=
  exists i : Int, v = .int i ∧ floatIntLimit ≤ i.natAbs

theorem Value.toInt_eq_tooLarge_iff {v : Value α} :
    v.toInt = .error .tooLarge ↔ v.IsInfinite := by
  constructor
  · intro h
    unfold Value.toInt at h
    split at h
    · cases h
    · cases h
    · next x =>
        cases hx : Scalar.exact x with
        | nan => simp [hx, Exact.truncate] at h
        | infinite negative => exact ⟨x, negative, rfl, hx⟩
        | ratio negative num den => simp [hx, Exact.truncate] at h
    · split at h <;> cases h
    · cases h
  · rintro ⟨x, negative, rfl, hx⟩
    simp only [Value.toInt, hx, Exact.truncate]

theorem Value.holdsInt_eq_false_iff {i : Int} :
    Scalar.holdsInt Float i = false ↔ floatIntLimit ≤ i.natAbs := by
  show Nat.blt i.natAbs floatIntLimit = false ↔ floatIntLimit ≤ i.natAbs
  rw [← Bool.not_eq_true, Nat.blt_eq, Nat.not_lt]

theorem Value.toNumber_eq_tooLarge_iff {v : Value Float} :
    v.toNumber = .error .tooLarge ↔ v.IsImmense := by
  constructor
  · intro h
    unfold Value.toNumber at h
    split at h
    · cases h
    · next i =>
        unfold Value.numberOfInt at h
        split at h
        · cases h
        · next hlarge => exact ⟨i, rfl, holdsInt_eq_false_iff.1 (Bool.eq_false_iff.2 hlarge)⟩
    · cases h
    · split at h <;> cases h
    · cases h
  · rintro ⟨i, rfl, hlarge⟩
    simp only [Value.toNumber, Value.numberOfInt, holdsInt_eq_false_iff.2 hlarge,
      Bool.false_eq_true, if_false]

namespace Fit

/-!
## Items
-/

/-- The items of a report. -/
def listed : Value α -> List (Value α)
  | .list items => items
  | _ => []

/-- Whether there is a value under a name, which can be converted. -/
def Names {β : Type} (f : Value α -> Except ConversionError β) (name : String)
    (fields : List (List Char × Value α)) (x : β) : Prop :=
  exists v, Value.field? name.toList fields = some v ∧ f v = .ok x

/-- Whether an item is an object that holds a measurement. -/
def Reads (item : Value α) (m : Measurement α) : Prop :=
  exists fields, item = .object fields ∧ Names Value.toInt "index" fields m.index ∧
    Names Value.toNumber "natural" fields m.natural ∧
    Names Value.toNumber "container" fields m.container

/-- Whether an item is an object with a number that is too large, where all that is read before
can be read. -/
inductive Overflows : Value Float -> Prop where
  | index {fields v} : Value.field? "index".toList fields = some v -> v.IsInfinite ->
      Overflows (.object fields)
  | natural {fields v i} : Names Value.toInt "index" fields i ->
      Value.field? "natural".toList fields = some v -> v.IsImmense -> Overflows (.object fields)
  | container {fields v i} {x : Float} : Names Value.toInt "index" fields i ->
      Names Value.toNumber "natural" fields x ->
      Value.field? "container".toList fields = some v -> v.IsImmense -> Overflows (.object fields)

/-- The measurement in an item, if it holds one. -/
def measurement? : Value α -> Option (Measurement α)
  | .object fields => (ofFields fields).toOption
  | _ => none

section Conversion

variable {β : Type} {f : Value α -> Except ConversionError β} {name : String}
  {fields : List (List Char × Value α)}

omit [Scalar α]

theorem convert_eq_ok_iff {x : β} : convert f name fields = .ok x ↔ Names f name fields x := by
  unfold convert Names
  cases Value.field? name.toList fields with
  | none => simp
  | some v => simp

theorem exists_of_convert_eq_tooLarge (h : convert f name fields = .error .tooLarge) :
    exists v, Value.field? name.toList fields = some v ∧ f v = .error .tooLarge := by
  unfold convert at h
  split at h
  · next v hv => exact ⟨v, hv, h⟩
  · cases h

theorem convert_eq_tooLarge {v : Value α} (hv : Value.field? name.toList fields = some v)
    (h : f v = .error .tooLarge) : convert f name fields = .error .tooLarge := by
  unfold convert
  rw [hv]
  exact h

end Conversion

theorem ofFields_eq_ok_iff {fields : List (List Char × Value α)} {m : Measurement α} :
    ofFields fields = .ok m ↔ Reads (.object fields) m := by
  constructor
  · intro h
    rcases exists_of_bind h with ⟨index, hindex, h⟩
    rcases exists_of_bind h with ⟨natural, hnatural, h⟩
    rcases exists_of_bind h with ⟨container, hcontainer, h⟩
    cases h
    exact ⟨fields, rfl, convert_eq_ok_iff.1 hindex, convert_eq_ok_iff.1 hnatural,
      convert_eq_ok_iff.1 hcontainer⟩
  · rintro ⟨fields, ⟨⟩, hindex, hnatural, hcontainer⟩
    unfold ofFields
    rw [convert_eq_ok_iff.2 hindex, convert_eq_ok_iff.2 hnatural,
      convert_eq_ok_iff.2 hcontainer]
    rfl

theorem measurement?_eq_some_iff {item : Value α} {m : Measurement α} :
    measurement? item = some m ↔ Reads item m := by
  cases item with
  | object fields =>
      rw [← ofFields_eq_ok_iff, measurement?]
      cases ofFields fields with
      | error e => simp [Except.toOption]
      | ok n => simp [Except.toOption]
  | _ =>
      constructor
      · nofun
      · rintro ⟨fields, ⟨⟩, -⟩

theorem overflows_of_ofFields {fields : List (List Char × Value Float)}
    (h : ofFields fields = .error .tooLarge) : Overflows (.object fields) := by
  unfold ofFields at h
  cases hindex : convert Value.toInt "index" fields with
  | error e =>
      rw [hindex] at h
      cases h
      rcases exists_of_convert_eq_tooLarge hindex with ⟨v, hv, hlarge⟩
      exact .index hv (Value.toInt_eq_tooLarge_iff.1 hlarge)
  | ok i =>
      rw [hindex] at h
      have hindex := convert_eq_ok_iff.1 hindex
      cases hnatural : convert Value.toNumber "natural" fields with
      | error e =>
          rw [hnatural] at h
          cases h
          rcases exists_of_convert_eq_tooLarge hnatural with ⟨v, hv, hlarge⟩
          exact .natural hindex hv (Value.toNumber_eq_tooLarge_iff.1 hlarge)
      | ok x =>
          rw [hnatural] at h
          have hnatural := convert_eq_ok_iff.1 hnatural
          cases hcontainer : convert Value.toNumber "container" fields with
          | error e =>
              rw [hcontainer] at h
              cases h
              rcases exists_of_convert_eq_tooLarge hcontainer with ⟨v, hv, hlarge⟩
              exact .container hindex hnatural hv (Value.toNumber_eq_tooLarge_iff.1 hlarge)
          | ok y =>
              rw [hcontainer] at h
              cases h

theorem exists_of_overflows {item : Value Float} (h : Overflows item) :
    exists fields, item = .object fields ∧ ofFields fields = .error .tooLarge := by
  cases h with
  | @index fields v hv hlarge =>
      refine ⟨fields, rfl, ?_⟩
      unfold ofFields
      rw [convert_eq_tooLarge hv (Value.toInt_eq_tooLarge_iff.2 hlarge)]
      rfl
  | @natural fields v i hindex hv hlarge =>
      refine ⟨fields, rfl, ?_⟩
      unfold ofFields
      rw [convert_eq_ok_iff.2 hindex,
        convert_eq_tooLarge hv (Value.toNumber_eq_tooLarge_iff.2 hlarge)]
      rfl
  | @container fields v i x hindex hnatural hv hlarge =>
      refine ⟨fields, rfl, ?_⟩
      unfold ofFields
      rw [convert_eq_ok_iff.2 hindex, convert_eq_ok_iff.2 hnatural,
        convert_eq_tooLarge hv (Value.toNumber_eq_tooLarge_iff.2 hlarge)]
      rfl

/-!
## Reports
-/

theorem ofItems_cons_of_overflows {item : Value Float} (h : Overflows item)
    (rest : List (Value Float)) : ofItems (item :: rest) = .error .tooLarge := by
  rcases exists_of_overflows h with ⟨fields, rfl, hlarge⟩
  rw [ofItems, hlarge]

theorem ofItems_cons_of_not_overflows {item : Value Float} (h : ¬ Overflows item)
    (rest : List (Value Float)) :
    ofItems (item :: rest) = (ofItems rest).map ((measurement? item).toList ++ ·) := by
  have hnone (r : Except ConversionError (List (Measurement Float))) : r.map ([] ++ ·) = r := by
    cases r <;> rfl
  cases item with
  | object fields =>
      rw [ofItems, measurement?]
      cases hread : ofFields fields with
      | ok m => rfl
      | error e =>
          cases e with
          | tooLarge => exact absurd (overflows_of_ofFields hread) h
          | _ => exact (hnone _).symm
  | _ => exact (hnone _).symm

theorem ofItems_of_not_overflows {items : List (Value Float)}
    (h : ∀ item ∈ items, ¬ Overflows item) :
    ofItems items = .ok (items.filterMap measurement?) := by
  induction items with
  | nil => rfl
  | cons item rest ih =>
      have hrest := ih fun other hother => h other (List.mem_cons_of_mem item hother)
      rw [ofItems_cons_of_not_overflows (h item List.mem_cons_self), hrest, List.filterMap_cons]
      cases measurement? item <;> rfl

theorem ofItems_of_overflows {items : List (Value Float)} (h : ∃ item ∈ items, Overflows item) :
    ofItems items = .error .tooLarge := by
  induction items with
  | nil =>
      rcases h with ⟨item, hitem, -⟩
      cases hitem
  | cons item rest ih =>
      by_cases hitem : Overflows item
      · exact ofItems_cons_of_overflows hitem rest
      · have hrest : ∃ other ∈ rest, Overflows other := by
          rcases h with ⟨other, hother, hlarge⟩
          rcases List.mem_cons.1 hother with rfl | hother
          · exact absurd hlarge hitem
          · exact ⟨other, hother, hlarge⟩
        rw [ofItems_cons_of_not_overflows hitem, ih hrest]
        rfl

theorem measurements_eq (v : Value α) : measurements v = ofItems (listed v) := by
  cases v <;> rfl

/-- A report is read exactly if no number in an item of it is too large. Then it has a measurement
for each item that holds one, in their order, and nothing for the others. Otherwise it is refused
as a whole. -/
theorem measurements_eq_ok_iff (report : Value Float) :
    (forall ms, measurements report = .ok ms ↔
      (∀ item ∈ listed report, ¬ Overflows item) ∧
        ms = (listed report).filterMap measurement?) ∧
    (forall e, measurements report = .error e ↔
      e = .tooLarge ∧ ∃ item ∈ listed report, Overflows item) ∧
    forall item m, measurement? (item : Value Float) = some m ↔ Reads item m := by
  rw [measurements_eq]
  refine ⟨fun ms => ?_, fun e => ?_, fun item m => measurement?_eq_some_iff⟩
  · by_cases h : ∃ item ∈ listed report, Overflows item
    · rw [ofItems_of_overflows h]
      refine ⟨nofun, fun hread => ?_⟩
      rcases h with ⟨item, hitem, hlarge⟩
      exact absurd hlarge (hread.1 item hitem)
    · have hall : ∀ item ∈ listed report, ¬ Overflows item :=
        fun item hitem hlarge => h ⟨item, hitem, hlarge⟩
      rw [ofItems_of_not_overflows hall, Except.ok.injEq]
      exact ⟨fun heq => ⟨hall, heq.symm⟩, fun hread => hread.2.symm⟩
  · by_cases h : ∃ item ∈ listed report, Overflows item
    · rw [ofItems_of_overflows h, Except.error.injEq]
      exact ⟨fun heq => ⟨heq.symm, h⟩, fun hread => hread.1.symm⟩
    · rw [ofItems_of_not_overflows fun item hitem hlarge => h ⟨item, hitem, hlarge⟩]
      exact ⟨nofun, fun hread => absurd hread.2 h⟩

/-- A width that is too large loses the measurement behind it. -/
theorem measurements_of_immense_width :
    let item (index : Int) (natural : Value Float) : Value Float :=
      .object [("index".toList, .int index), ("natural".toList, natural),
        ("container".toList, .int 100)]
    (measurement? (item 1 (.int 200))).isSome = true ∧
      measurements (.list [item 0 (.int (.ofNat floatIntLimit)), item 1 (.int 200)]) =
        .error .tooLarge := by
  intro item
  have hlost (n : Int) (hlarge : floatIntLimit ≤ n.natAbs) :
      measurements (.list [item 0 (.int n), item 1 (.int 200)]) = .error .tooLarge := by
    have hoverflows : Overflows (item 0 (.int n)) :=
      .natural (i := 0) ⟨.int 0, rfl, rfl⟩ rfl ⟨n, rfl, hlarge⟩
    exact (measurements_eq _).trans (ofItems_cons_of_overflows hoverflows _)
  exact ⟨by decide +kernel, hlost (.ofNat floatIntLimit) (by decide +kernel)⟩

end Fit
end Folio
