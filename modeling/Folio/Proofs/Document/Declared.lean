import Folio.Document.Rendered

/-!
# Settings of the declared types

A title is a text, and a number is one that a machine number can stand for. With settings of
these types every text can be rendered (`exists_render`), and a change of them that is accepted
keeps them so (`Settings.IsDeclared.change`).
-/

namespace Folio

open Number

variable {α : Type} [Scalar α]

/-!
## Declared types
-/

/-- Whether a number is not too large for a machine number. -/
def Amount.IsHeld (a : Amount α) : Prop :=
  exists x : α, a.toNumber = .ok x

theorem Amount.isHeld_real (x : α) : (Amount.real x).IsHeld :=
  ⟨x, rfl⟩

theorem Amount.exists_plain {a : Amount α} (h : a.IsHeld) : exists s, a.plain = .ok s := by
  rcases h with ⟨x, hx⟩
  have hvalue : a.toValue.toNumber = .ok x := hx
  exact ⟨(Scalar.exact x).plain, by rw [Amount.plain, hvalue]; rfl⟩

omit [Scalar α] in
@[simp] theorem Amount.ofValue?_toValue (a : Amount α) : Amount.ofValue? a.toValue = some a := by
  cases a <;> rfl

theorem Amount.clamp_cases (a low high : Amount α) :
    a.clamp low high = a ∨ a.clamp low high = low ∨ a.clamp low high = high := by
  unfold Amount.clamp Amount.greatest
  split
  · unfold Amount.least
    split
    · exact Or.inl rfl
    · exact Or.inr (Or.inr rfl)
  · exact Or.inr (Or.inl rfl)

theorem exists_of_bind {β γ ε : Type} {x : Except ε β} {f : β -> Except ε γ} {c : γ}
    (h : x >>= f = .ok c) : exists b, x = .ok b ∧ f b = .ok c := by
  cases x with
  | error e => cases h
  | ok b => exact ⟨b, rfl, h⟩

/-- Whether settings have their declared types: a title is a text, and numbers are not too
large for a machine number. The others are checked when they are given. -/
structure Settings.IsDeclared (s : Settings α) : Prop where
  title : exists t, s.title = .text t
  fontSize : s.fontSize.IsHeld
  lineHeight : s.lineHeight.IsHeld
  margins : s.margins.fourfold.IsHeld

/-- Whether the value of a setting has the declared type of that setting. -/
structure Value.IsDeclared (name : List Char) (v : Value α) : Prop where
  title : name = "title".toList -> exists t, v = .text t
  size : name = "font_size".toList ∨ name = "line_height".toList ->
    forall a, Amount.ofValue? v = some a -> a.IsHeld
  margins : name = "margins".toList -> forall a, Amount.ofValue? v = some a -> a.fourfold.IsHeld

/-- Whether the values of settings before the check have their declared types. -/
structure Draft.IsDeclared (d : Draft α) : Prop where
  title : exists t, d.title = .text t
  fontSize : forall a, Amount.ofValue? d.fontSize = some a -> a.IsHeld
  lineHeight : forall a, Amount.ofValue? d.lineHeight = some a -> a.IsHeld
  margins : forall a, Amount.ofValue? d.margins = some a -> a.fourfold.IsHeld

omit [Scalar α] in
theorem cases_of_ite {β : Type} {c : Prop} [Decidable c] {a b : β} {rest : Option β}
    (h : (if c then some a else rest) = some b) : (c ∧ a = b) ∨ rest = some b := by
  split at h
  · next hc => exact Or.inl ⟨hc, Option.some.inj h⟩
  · exact Or.inr h

omit [Scalar α] in
/-- A setting keeps its value, unless it is the one that is given another. -/
theorem Draft.set?_cases {d e : Draft α} {name : List Char} {v : Value α}
    (h : d.set? name v = some e) :
    (e.title = d.title ∨ name = "title".toList ∧ e.title = v) ∧
    (e.fontSize = d.fontSize ∨ name = "font_size".toList ∧ e.fontSize = v) ∧
    (e.lineHeight = d.lineHeight ∨ name = "line_height".toList ∧ e.lineHeight = v) ∧
    (e.margins = d.margins ∨ name = "margins".toList ∧ e.margins = v) := by
  unfold Draft.set? at h
  rcases cases_of_ite h with ⟨hname, rfl⟩ | h
  · exact ⟨Or.inr ⟨hname, rfl⟩, Or.inl rfl, Or.inl rfl, Or.inl rfl⟩
  rcases cases_of_ite h with ⟨-, rfl⟩ | h
  · exact ⟨Or.inl rfl, Or.inl rfl, Or.inl rfl, Or.inl rfl⟩
  rcases cases_of_ite h with ⟨-, rfl⟩ | h
  · exact ⟨Or.inl rfl, Or.inl rfl, Or.inl rfl, Or.inl rfl⟩
  rcases cases_of_ite h with ⟨-, rfl⟩ | h
  · exact ⟨Or.inl rfl, Or.inl rfl, Or.inl rfl, Or.inl rfl⟩
  rcases cases_of_ite h with ⟨hname, rfl⟩ | h
  · exact ⟨Or.inl rfl, Or.inr ⟨hname, rfl⟩, Or.inl rfl, Or.inl rfl⟩
  rcases cases_of_ite h with ⟨hname, rfl⟩ | h
  · exact ⟨Or.inl rfl, Or.inl rfl, Or.inl rfl, Or.inr ⟨hname, rfl⟩⟩
  rcases cases_of_ite h with ⟨hname, rfl⟩ | h
  · exact ⟨Or.inl rfl, Or.inl rfl, Or.inr ⟨hname, rfl⟩, Or.inl rfl⟩
  -- the settings that are left are checked by themselves
  rcases cases_of_ite h with ⟨-, rfl⟩ | h
  · exact ⟨Or.inl rfl, Or.inl rfl, Or.inl rfl, Or.inl rfl⟩
  rcases cases_of_ite h with ⟨-, rfl⟩ | h
  · exact ⟨Or.inl rfl, Or.inl rfl, Or.inl rfl, Or.inl rfl⟩
  rcases cases_of_ite h with ⟨-, rfl⟩ | h
  · exact ⟨Or.inl rfl, Or.inl rfl, Or.inl rfl, Or.inl rfl⟩
  · cases h

namespace Draft.IsDeclared

variable {d e : Draft α}

theorem ofSettings {s : Settings α} (h : s.IsDeclared) : (Draft.ofSettings s).IsDeclared where
  title := h.title
  fontSize := by simpa [Draft.ofSettings] using h.fontSize
  lineHeight := by simpa [Draft.ofSettings] using h.lineHeight
  margins := by simpa [Draft.ofSettings] using h.margins

theorem set? (h : d.IsDeclared) {name : List Char} {v : Value α} (hv : v.IsDeclared name)
    (hset : d.set? name v = some e) : e.IsDeclared := by
  rcases Draft.set?_cases hset with ⟨htitle, hfont, hline, hmargins⟩
  constructor
  · rcases htitle with heq | ⟨hname, heq⟩
    · exact heq ▸ h.title
    · exact heq ▸ hv.title hname
  · rcases hfont with heq | ⟨hname, heq⟩
    · exact heq ▸ h.fontSize
    · exact heq ▸ hv.size (Or.inl hname)
  · rcases hline with heq | ⟨hname, heq⟩
    · exact heq ▸ h.lineHeight
    · exact heq ▸ hv.size (Or.inr hname)
  · rcases hmargins with heq | ⟨hname, heq⟩
    · exact heq ▸ h.margins
    · exact heq ▸ hv.margins hname

theorem setAll? {fields : List (List Char × Value α)} (h : d.IsDeclared)
    (hfields : ∀ f ∈ fields, f.2.IsDeclared f.1) (hset : d.setAll? fields = some e) :
    e.IsDeclared := by
  induction fields generalizing d with
  | nil =>
      cases hset
      exact h
  | cons f fields ih =>
      unfold Draft.setAll? at hset
      split at hset
      · next d' hd' =>
          have hfirst : d'.IsDeclared := h.set? (hfields f List.mem_cons_self) hd'
          exact ih hfirst (fun g hg => hfields g (List.mem_cons_of_mem f hg)) hset
      · cases hset

omit [Scalar α] in
theorem ofValue?_of_number {v : Value α} {small : Amount α -> Bool}
    {fault : Amount α -> SettingsError α} {a : Amount α}
    (h : Draft.number v small fault = .ok a) : Amount.ofValue? v = some a := by
  unfold Draft.number at h
  split at h
  · cases h
  · next b hb =>
      split at h
      · cases h
      · cases h
        exact hb

theorem check (h : d.IsDeclared) {s : Settings α} (hcheck : d.check = .ok s) :
    s.IsDeclared := by
  rcases exists_of_bind hcheck with ⟨theme, -, hcheck⟩
  rcases exists_of_bind hcheck with ⟨compression, -, hcheck⟩
  rcases exists_of_bind hcheck with ⟨direction, -, hcheck⟩
  rcases exists_of_bind hcheck with ⟨fontSize, hfont, hcheck⟩
  rcases exists_of_bind hcheck with ⟨lineHeight, hline, hcheck⟩
  rcases exists_of_bind hcheck with ⟨margins, hmargins, hcheck⟩
  rcases exists_of_bind hcheck with ⟨columns, -, hcheck⟩
  cases hcheck
  exact
    { title := h.title
      fontSize := h.fontSize _ (ofValue?_of_number hfont)
      lineHeight := h.lineHeight _ (ofValue?_of_number hline)
      margins := h.margins _ (ofValue?_of_number hmargins) }

end Draft.IsDeclared

namespace Settings.IsDeclared

variable {s t : Settings α}

/-- A change that is accepted keeps the declared types. -/
theorem change (h : s.IsDeclared) {fields : List (List Char × Value α)}
    (hfields : ∀ f ∈ fields, f.2.IsDeclared f.1) (hchange : s.change fields = .ok t) :
    t.IsDeclared := by
  unfold Settings.change at hchange
  split at hchange
  · next d hd => exact ((Draft.IsDeclared.ofSettings h).setAll? hfields hd).check hchange
  · cases hchange

theorem exists_titleOf (h : s.IsDeclared) : exists title, Document.titleOf s = .ok title := by
  rcases h.title with ⟨t, ht⟩
  unfold Document.titleOf Settings.titleText?
  rw [ht]
  split
  · next title _ => exact ⟨title, rfl⟩
  · next hnone =>
      split at hnone
      · cases hnone
      · cases hnone

theorem exists_padding (h : s.IsDeclared) : exists padding, Style.padding s = .ok padding := by
  unfold Style.padding
  split
  · exact ⟨_, rfl⟩
  · rcases Amount.exists_plain h.margins with ⟨margins, hmargins⟩
    exact ⟨margins ++ "px".toList, by rw [hmargins]; rfl⟩

/-- Only the numbers of an uncompressed document may be too large to be written. -/
theorem exists_stylesheet (h : s.IsDeclared) :
    exists sheet, Style.stylesheet s = .ok sheet := by
  rcases Amount.exists_plain h.fontSize with ⟨fontSize, hfont⟩
  rcases Amount.exists_plain h.lineHeight with ⟨lineHeight, hline⟩
  rcases h.exists_padding with ⟨padding, hpadding⟩
  have hlook : exists look, Style.look s.theme.tokens s = .ok look := by
    unfold Style.look
    rw [hpadding, hfont, hline]
    cases (Style.preset? s.compression : Option (Style.Preset α)) with
    | none => exact ⟨_, rfl⟩
    | some p => exact ⟨_, rfl⟩
  rcases hlook with ⟨look, hlook⟩
  unfold Style.stylesheet Style.sheet
  rw [hlook]
  exact ⟨_, rfl⟩

/-- With settings of the declared types every text can be rendered. -/
theorem exists_render (h : s.IsDeclared) (setter : Math.Typesetter) (today : Document.Date)
    (source : List Char) :
    exists d, Document.render (some setter) s today source = .ok (some d) := by
  rcases h.exists_stylesheet with ⟨sheet, hsheet⟩
  rcases h.exists_titleOf with ⟨title, htitle⟩
  unfold Document.render Document.header
  rw [hsheet, htitle]
  exact ⟨_, rfl⟩

end Settings.IsDeclared
end Folio
