import Folio.Proofs.Settings.Setting
import Folio.Proofs.Window.Course

/-!
# Changes one after another

A change gives settings values and checks all ten, the old ones among them. As each is checked
by itself and kept as it was given (`change_eq_ok_iff`), changes compose: two of them are one,
and changes of different settings may be made in any order. A refused change leaves the window
with the settings that it had.
-/

namespace Folio

open Number Style

variable {α : Type}

/-! ## Settings as their values -/

theorem Amount.toValue_inj {a b : Amount α} (h : a.toValue = b.toValue) : a = b := by
  have hfound : Amount.ofValue? a.toValue = some b := by rw [h, Amount.ofValue?_toValue]
  rw [Amount.ofValue?_toValue] at hfound
  exact Option.some.inj hfound

/-- Names that are found again differ. -/
theorem inj_of_ofName? {β : Type} {ofName? : List Char -> Option β} {name : β -> List Char}
    (hname : forall s b, ofName? s = some b ↔ s = name b) {b c : β} (h : name b = name c) :
    b = c := by
  have hfound : ofName? (name b) = some c := (hname _ c).2 h
  rw [(hname _ b).2 rfl] at hfound
  exact Option.some.inj hfound

theorem Draft.ofSettings_inj {s t : Settings α} (h : ofSettings s = ofSettings t) : s = t := by
  cases s with
  | mk title showDate showToc theme fontSize margins lineHeight direction compression columns =>
      cases t with
      | mk title' showDate' showToc' theme' fontSize' margins' lineHeight' direction' compression'
          columns' =>
          simp only [ofSettings, Draft.mk.injEq, Value.text.injEq] at h
          rcases h with ⟨rfl, rfl, rfl, htheme, hfont, hmargins, hline, hdirection, hcompression,
            hcolumns⟩
          cases inj_of_ofName? Theme.ofName?_eq_some_iff htheme
          cases Amount.toValue_inj hfont
          cases Amount.toValue_inj hmargins
          cases Amount.toValue_inj hline
          cases inj_of_ofName? Direction.ofName?_eq_some_iff hdirection
          cases inj_of_ofName? Compression.ofName?_eq_some_iff hcompression
          cases columns with
          | none =>
              cases columns' with
              | none => rfl
              | some b => cases b <;> cases hcolumns
          | some a =>
              cases columns' with
              | none => cases a <;> cases hcolumns
              | some b => cases Amount.toValue_inj hcolumns; rfl

namespace Settings

/-- The value of a setting. -/
def value (s : Settings α) (x : Setting) : Value α :=
  (Draft.ofSettings s).get x

variable [Scalar α] {s t u : Settings α} {fields others : List (List Char × Value α)}

/-- A change gives settings the values that are named for them and keeps the others. It is
accepted if every name is that of a setting and every value, also an old one, is taken. -/
theorem change_eq_ok_iff :
    s.change fields = .ok t ↔
      (∀ f ∈ fields, exists x : Setting, f.1 = x.name) ∧
        (forall x, t.value x = (Value.field? x.name fields).getD (s.value x)) ∧
          forall x, Setting.Takes x (t.value x) := by
  constructor
  · intro h
    unfold change at h
    split at h
    · next d hd =>
        rcases Draft.takes_of_check h with ⟨rfl, htakes⟩
        rcases Draft.setAll?_eq_some_iff.1 hd with ⟨hnames, hvalues⟩
        exact ⟨hnames, hvalues, htakes⟩
    · cases h
  · rintro ⟨hnames, hvalues, htakes⟩
    have hset : (Draft.ofSettings s).setAll? fields = some (Draft.ofSettings t) :=
      Draft.setAll?_eq_some_iff.2 ⟨hnames, hvalues⟩
    rcases Draft.exists_check htakes with ⟨t', ht'⟩
    have heq : t = t' := Draft.ofSettings_inj (Draft.takes_of_check ht').1
    rw [change, hset, heq]
    exact heq ▸ ht'

theorem exists_change (hnames : ∀ f ∈ fields, exists x : Setting, f.1 = x.name)
    (htakes : forall x : Setting, x.Takes ((Value.field? x.name fields).getD (s.value x))) :
    exists t, s.change fields = .ok t := by
  rcases Draft.exists_setAll? hnames with ⟨d, hd⟩
  rw [change, hd]
  apply Draft.exists_check
  intro x
  rw [(Draft.setAll?_eq_some_iff.1 hd).2]
  exact htakes x

/-- Settings that come of changes that were accepted, from the default ones on. -/
inductive IsReached : Settings α -> Prop where
  | make {fields : List (List Char × Value α)} {s : Settings α} (h : Settings.make fields = .ok s) :
      IsReached s
  | change {s t : Settings α} {fields : List (List Char × Value α)} (hs : IsReached s)
      (h : s.change fields = .ok t) : IsReached t

/-- Every setting has a value that it takes. -/
theorem IsReached.takes (h : s.IsReached) (x : Setting) : x.Takes (s.value x) := by
  cases h with
  | make h => exact (change_eq_ok_iff.1 h).2.2 x
  | change _ h => exact (change_eq_ok_iff.1 h).2.2 x

/-! ## Changes together -/

omit [Scalar α] in
/-- The settings that one change names, with the values of another where that names them too. -/
def overridden (fields others : List (List Char × Value α)) : List (List Char × Value α) :=
  fields.filter (fun f => others.all fun g => g.1 ≠ f.1) ++ others

omit [Scalar α] in
theorem field?_overridden (name : List Char) (fields others : List (List Char × Value α)) :
    Value.field? name (overridden fields others) =
      (Value.field? name others).or (Value.field? name fields) := by
  rw [overridden, Value.field?_append]
  cases h : Value.field? name others with
  | some v => rfl
  | none =>
      rw [Option.none_or, Option.none_or]
      apply Value.field?_filter
      rintro f rfl
      rw [List.all_eq_true]
      intro g hg
      exact decide_eq_true (Value.field?_eq_none_iff.1 h g hg)

omit [Scalar α] in
theorem mem_of_mem_overridden {f : List Char × Value α} (h : f ∈ overridden fields others) :
    f ∈ fields ∨ f ∈ others := by
  rw [overridden, List.mem_append, List.mem_filter] at h
  exact h.imp_left And.left

theorem change_overridden (h : s.change fields = .ok t) (k : t.change others = .ok u) :
    s.change (overridden fields others) = .ok u := by
  rcases change_eq_ok_iff.1 h with ⟨hnames, hvalues, -⟩
  rcases change_eq_ok_iff.1 k with ⟨knames, kvalues, ktakes⟩
  refine change_eq_ok_iff.2 ⟨?_, ?_, ktakes⟩
  · intro f hf
    exact (mem_of_mem_overridden hf).elim (hnames f) (knames f)
  · intro x
    rw [kvalues, hvalues, field?_overridden]
    cases Value.field? x.name others <;> rfl

theorem value_of_change (h : s.change fields = .ok t) {x : Setting}
    (hx : ∀ f ∈ fields, f.1 ≠ x.name) : t.value x = s.value x := by
  rw [(change_eq_ok_iff.1 h).2.1, Value.field?_eq_none_iff.2 hx]
  rfl

/-- The settings after the second of two changes of different settings, made first. -/
theorem exists_change_change (hs : s.IsReached)
    (hapart : ∀ f ∈ fields, ∀ g ∈ others, f.1 ≠ g.1) (h : s.change fields = .ok t)
    (k : t.change others = .ok u) :
    exists v, s.change others = .ok v ∧ v.change fields = .ok u := by
  rcases change_eq_ok_iff.1 h with ⟨hnames, hvalues, -⟩
  rcases change_eq_ok_iff.1 k with ⟨knames, kvalues, ktakes⟩
  have hfirst : exists v, s.change others = .ok v := by
    refine exists_change knames fun x => ?_
    cases hx : Value.field? x.name others with
    | none => exact hs.takes x
    | some a =>
        have hlast : u.value x = a := by rw [kvalues, hx]; rfl
        exact hlast ▸ ktakes x
  rcases hfirst with ⟨v, hv⟩
  refine ⟨v, hv, change_eq_ok_iff.2 ⟨hnames, fun x => ?_, ktakes⟩⟩
  rw [kvalues, hvalues, (change_eq_ok_iff.1 hv).2.1]
  cases hx : Value.field? x.name others with
  | none => rfl
  | some a =>
      -- a setting that the one change names is not named by the other
      have hnone : Value.field? x.name fields = none := by
        rw [Value.field?_eq_none_iff]
        intro f hf heq
        have hothers : Value.field? x.name others = none :=
          Value.field?_eq_none_iff.2 fun g hg hgx => hapart f hf g hg (heq.trans hgx.symm)
        rw [hothers] at hx
        cases hx
      rw [hnone]
      rfl

/-! ## Changes in the window -/

/-- Settings that are refused are not worked on, and nothing is rendered because of them. -/
theorem work_of_refused {w : Window.State α} {fault : SettingsError α}
    (h : w.settings.change fields = .error fault) : (w.change fields).work = w.work := by
  unfold Window.State.change
  rw [h]
  simp only
  split <;> rfl

/-- Changes that are accepted one after the other are one change; if they name different
settings, they are accepted in the other order too, with the same outcome. A setting that is
not named keeps its value. A window whose change is refused with a message keeps its settings,
and no rendering becomes due. -/
theorem changes_compose (hs : s.IsReached) (fields others : List (List Char × Value α)) :
    (forall t u, s.change fields = .ok t -> t.change others = .ok u ->
      s.change (overridden fields others) = .ok u) ∧
    ((∀ f ∈ fields, ∀ g ∈ others, f.1 ≠ g.1) ->
      forall t u, s.change fields = .ok t -> t.change others = .ok u ->
        exists v, s.change others = .ok v ∧ v.change fields = .ok u) ∧
    (forall t, s.change fields = .ok t ->
      forall x : Setting, (∀ f ∈ fields, f.1 ≠ x.name) -> t.value x = s.value x) ∧
    forall (w : Window.State α) (fault : SettingsError α) (message : List Char),
      w.settings = s -> s.change fields = .error fault -> fault.message? = some message ->
        (w.change fields).settings = s ∧ (w.change fields).renderDue = w.renderDue := by
  refine ⟨fun t u => change_overridden, fun hapart t u => exists_change_change hs hapart,
    fun t h x => value_of_change h, ?_⟩
  intro w fault message hw h _
  subst hw
  have hwork := work_of_refused h
  exact ⟨congrArg (·.settings) hwork, congrArg (·.renderDue) hwork⟩

/-- A smaller font and then two columns, and in an open window a font of no size. -/
theorem changes_compose_of_font_and_columns :
    let s : Settings Float := .default
    let fields : List (List Char × Value Float) := [("font_size".toList, .int 12)]
    let others : List (List Char × Value Float) := [("columns".toList, .int 2)]
    let refused : List (List Char × Value Float) := [("font_size".toList, .int 0)]
    let t := { s with fontSize := .whole 12 }
    let u := { t with columns := some (.whole 2) }
    s.IsReached ∧ s.change fields = .ok t ∧ t.change others = .ok u ∧
      s.change (overridden fields others) = .ok u ∧
      (exists v, s.change others = .ok v ∧ v.change fields = .ok u) ∧
      t.value .margins = s.value .margins ∧
      exists w : Window.State Float,
        Window.State.start "a".toList s none ⟨.absolute, []⟩ [] ⟨2026, 9, 19⟩ = .ok w ∧
          (w.change refused).settings = s ∧ (w.change refused).renderDue = w.renderDue := by
  intro s fields others refused t u
  have hmake : Settings.make ([] : List (List Char × Value Float)) = .ok s := rfl
  have hs : s.IsReached := .make hmake
  have ht : s.change fields = .ok t := rfl
  have hu : t.change others = .ok u := rfl
  have hopens : Window.opensWith
      (Window.State.start "a".toList s none ⟨.absolute, []⟩ [] ⟨2026, 9, 19⟩)
      (fun _ => true) = true := by
    decide
  rcases Window.exists_of_opensWith hopens with ⟨w, hstart, -⟩
  have hw : w.settings = s := by
    rcases Window.start_cases hstart with ⟨controls, d, page, -, -, rfl⟩
    rfl
  rcases changes_compose hs fields others with ⟨htogether, hswapped, hkept, -⟩
  rcases changes_compose hs refused others with ⟨-, -, -, hrefused⟩
  refine ⟨hs, ht, hu, htogether t u ht hu, hswapped (by decide) t u ht hu,
    hkept t ht .margins (by decide), w, hstart, ?_⟩
  exact hrefused w (.fontSize (.whole 0)) _ hw rfl rfl

end Settings
end Folio
