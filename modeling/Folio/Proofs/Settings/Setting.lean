import Folio.Proofs.Document.Declared

/-!
# The settings one by one

A draft is its ten values. To give settings values is to overwrite some of the ten
(`setAll?_eq_some_iff`), and a draft is accepted if each of the ten is a value that its setting
takes (`check_eq_ok_iff`). No check looks at two settings.
-/

namespace Folio

open Number Style

variable {α : Type}

/-- A setting. -/
inductive Setting where
  | title
  | showDate
  | showToc
  | theme
  | fontSize
  | margins
  | lineHeight
  | direction
  | compression
  | columns
  deriving DecidableEq, Repr

/-!
## Names
-/

namespace Setting

/-- The name by which a setting is given. -/
def name : Setting -> List Char
  | title => "title".toList
  | showDate => "show_date".toList
  | showToc => "show_toc".toList
  | theme => "theme".toList
  | fontSize => "font_size".toList
  | margins => "margins".toList
  | lineHeight => "line_height".toList
  | direction => "direction".toList
  | compression => "compression".toList
  | columns => "columns".toList

/-- All settings, in the order in which a name is looked up. -/
def all : List Setting :=
  [title, showDate, showToc, theme, fontSize, margins, lineHeight, direction, compression, columns]

/-- The setting of a name. -/
def ofName? (s : List Char) : Option Setting :=
  all.find? fun x => x.name == s

@[simp] theorem ofName?_name (x : Setting) : ofName? x.name = some x := by
  cases x <;> decide

theorem name_inj {x y : Setting} (h : x.name = y.name) : x = y := by
  have hfound : ofName? x.name = some y := by rw [h, ofName?_name]
  rw [ofName?_name] at hfound
  exact Option.some.inj hfound

end Setting

/-!
## The values of a draft
-/

namespace Draft

variable {d e : Draft α}

/-- The value of a setting. -/
def get (d : Draft α) : Setting -> Value α
  | .title => d.title
  | .showDate => d.showDate
  | .showToc => d.showToc
  | .theme => d.theme
  | .fontSize => d.fontSize
  | .margins => d.margins
  | .lineHeight => d.lineHeight
  | .direction => d.direction
  | .compression => d.compression
  | .columns => d.columns

/-- Give a setting a value. -/
def put (d : Draft α) (x : Setting) (v : Value α) : Draft α :=
  match x with
  | .title => { d with title := v }
  | .showDate => { d with showDate := v }
  | .showToc => { d with showToc := v }
  | .theme => { d with theme := v }
  | .fontSize => { d with fontSize := v }
  | .margins => { d with margins := v }
  | .lineHeight => { d with lineHeight := v }
  | .direction => { d with direction := v }
  | .compression => { d with compression := v }
  | .columns => { d with columns := v }

theorem ext_get (h : forall x, d.get x = e.get x) : d = e := by
  cases d
  cases e
  simp only [mk.injEq]
  exact ⟨h .title, h .showDate, h .showToc, h .theme, h .fontSize, h .margins, h .lineHeight,
    h .direction, h .compression, h .columns⟩

@[simp] theorem get_put_self (d : Draft α) (x : Setting) (v : Value α) : (d.put x v).get x = v := by
  cases x <;> rfl

theorem get_put_of_ne (d : Draft α) {x y : Setting} (v : Value α) (h : x ≠ y) :
    (d.put x v).get y = d.get y := by
  cases x <;> cases y <;> first | rfl | exact absurd rfl h

theorem set?_name (d : Draft α) (x : Setting) (v : Value α) :
    d.set? x.name v = some (d.put x v) := by
  cases x <;> rfl

theorem set?_of_unknown (d : Draft α) {name : List Char} (v : Value α)
    (h : forall x : Setting, name ≠ x.name) : d.set? name v = none := by
  calc d.set? name v
    _ = _ := if_neg (h .title)
    _ = _ := if_neg (h .showDate)
    _ = _ := if_neg (h .showToc)
    _ = _ := if_neg (h .theme)
    _ = _ := if_neg (h .fontSize)
    _ = _ := if_neg (h .margins)
    _ = _ := if_neg (h .lineHeight)
    _ = _ := if_neg (h .direction)
    _ = _ := if_neg (h .compression)
    _ = none := if_neg (h .columns)

end Draft

/-! ## Values given by name -/

namespace Value

variable {fields : List (List Char × Value α)} {name : List Char}

/-- Of two values for one name the later counts. -/
theorem field?_append (name : List Char) (first next : List (List Char × Value α)) :
    field? name (first ++ next) = (field? name next).or (field? name first) := by
  unfold field?
  rw [List.reverse_append, List.find?_append, Option.map_or]

theorem field?_singleton (name : List Char) (f : List Char × Value α) :
    field? name [f] = if f.1 = name then some f.2 else none := by
  unfold field?
  rw [List.reverse_singleton, List.find?_singleton]
  by_cases h : f.1 = name <;> simp [h]

theorem field?_cons (name : List Char) (f : List Char × Value α)
    (rest : List (List Char × Value α)) :
    field? name (f :: rest) = (field? name rest).or (if f.1 = name then some f.2 else none) := by
  rw [← field?_singleton, ← field?_append, List.singleton_append]

/-- A name has a value if it is one of those that are given. -/
theorem field?_eq_none_iff : field? name fields = none ↔ ∀ f ∈ fields, f.1 ≠ name := by
  unfold field?
  rw [Option.map_eq_none_iff, List.find?_eq_none]
  simp

theorem field?_filter {p : List Char × Value α -> Bool} (h : forall f, f.1 = name -> p f = true) :
    field? name (fields.filter p) = field? name fields := by
  unfold field?
  rw [← List.filter_reverse, List.find?_filter]
  congr 2
  funext f
  by_cases hname : f.1 = name
  · simp [h f hname, hname]
  · simp [hname]

end Value

namespace Draft

variable {d e : Draft α}

/-- Settings that are given values have them, and the others keep their own; nothing but a
setting can be given a value. -/
theorem setAll?_eq_some_iff {fields : List (List Char × Value α)} :
    d.setAll? fields = some e ↔
      (∀ f ∈ fields, exists x : Setting, f.1 = x.name) ∧
        forall x, e.get x = (Value.field? x.name fields).getD (d.get x) := by
  induction fields generalizing d with
  | nil =>
      constructor
      · intro h
        cases h
        exact ⟨nofun, fun _ => rfl⟩
      · rintro ⟨-, h⟩
        exact congrArg some (ext_get fun x => (h x).symm)
  | cons f rest ih =>
      by_cases hname : exists x : Setting, f.1 = x.name
      · rcases hname with ⟨x, hx⟩
        have hfirst : d.setAll? (f :: rest) = (d.put x f.2).setAll? rest := by
          rw [setAll?, hx, set?_name]
        have hvalue : forall y : Setting, (Value.field? y.name (f :: rest)).getD (d.get y) =
            (Value.field? y.name rest).getD ((d.put x f.2).get y) := by
          intro y
          rw [Value.field?_cons, hx]
          cases Value.field? y.name rest with
          | some v => rfl
          | none =>
              by_cases hxy : x = y
              · rw [hxy, if_pos rfl, get_put_self]
                rfl
              · rw [if_neg fun h => hxy (Setting.name_inj h), get_put_of_ne d _ hxy]
                rfl
        rw [hfirst, ih]
        simp only [hvalue, List.forall_mem_cons]
        exact and_congr_left' ⟨fun h => ⟨⟨x, hx⟩, h⟩, And.right⟩
      · have hfirst : d.setAll? (f :: rest) = none := by
          rw [setAll?, set?_of_unknown d f.2 fun x hx => hname ⟨x, hx⟩]
        rw [hfirst]
        exact ⟨nofun, fun h => absurd (h.1 f List.mem_cons_self) hname⟩

theorem exists_setAll? {fields : List (List Char × Value α)}
    (h : ∀ f ∈ fields, exists x : Setting, f.1 = x.name) : exists e, d.setAll? fields = some e := by
  induction fields generalizing d with
  | nil => exact ⟨d, rfl⟩
  | cons f rest ih =>
      rcases h f List.mem_cons_self with ⟨x, hx⟩
      rw [setAll?, hx, set?_name]
      exact ih fun g hg => h g (List.mem_cons_of_mem f hg)

end Draft

/-! ## What a setting takes -/

theorem eq_name_of_find? {β : Type} {all : List β} {name : β -> List Char} {s : List Char} {b : β}
    (h : all.find? (fun b => name b == s) = some b) : s = name b := by
  have hname := List.find?_some h
  exact (eq_of_beq hname).symm

theorem Style.Theme.ofName?_eq_some_iff (s : List Char) (t : Theme) :
    Theme.ofName? s = some t ↔ s = t.name := by
  constructor
  · exact eq_name_of_find?
  · rintro rfl
    exact Theme.ofName?_name t

theorem Compression.ofName?_eq_some_iff (s : List Char) (c : Compression) :
    Compression.ofName? s = some c ↔ s = c.name := by
  constructor
  · exact eq_name_of_find?
  · rintro rfl
    cases c <;> decide

theorem Direction.ofName?_eq_some_iff (s : List Char) (d : Direction) :
    Direction.ofName? s = some d ↔ s = d.name := by
  constructor
  · exact eq_name_of_find?
  · rintro rfl
    cases d <;> decide

theorem Amount.ofValue?_eq_some_iff {v : Value α} {a : Amount α} :
    Amount.ofValue? v = some a ↔ v = a.toValue := by
  constructor
  · intro h
    cases v <;> cases h <;> rfl
  · rintro rfl
    exact Amount.ofValue?_toValue a

namespace Draft

variable {v : Value α}

/-- A thing that is given by its name is the one that has this name. -/
theorem named?_eq_some_iff {β : Type} {ofName? : List Char -> Option β} {name : β -> List Char}
    (hname : forall s b, ofName? s = some b ↔ s = name b) {b : β} :
    named? ofName? v = some b ↔ v = .text (name b) := by
  constructor
  · intro h
    cases v <;> first | exact congrArg _ ((hname _ _).1 h) | cases h
  · rintro rfl
    exact (hname _ b).2 rfl

theorem elim_eq_ok_iff {β ε : Type} {o : Option β} {e : ε} {b : β} :
    o.elim (Except.error e) Except.ok = .ok b ↔ o = some b := by
  cases o <;> simp

theorem number_eq_ok_iff {isSmall : Amount α -> Bool} {fault : Amount α -> SettingsError α}
    {a : Amount α} :
    number v isSmall fault = .ok a ↔ v = a.toValue ∧ isSmall a = false := by
  constructor
  · intro h
    refine ⟨Amount.ofValue?_eq_some_iff.1 (IsDeclared.ofValue?_of_number h), ?_⟩
    unfold number at h
    split at h
    · cases h
    · split at h
      · cases h
      · next hsmall =>
          cases h
          exact eq_false_of_ne_true hsmall
  · rintro ⟨rfl, hsmall⟩
    rw [number, Amount.ofValue?_toValue]
    exact if_neg (ne_true_of_eq_false hsmall)

variable [Scalar α]

/-- A count may be missing. -/
theorem columnCount_eq_ok_iff {count : Option (Amount α)} :
    columnCount v = .ok count ↔
      (v = .null ∧ count = none) ∨
        exists a, count = some a ∧ v = a.toValue ∧ a.isBelow 1 = false := by
  unfold columnCount
  split
  · next =>
      constructor
      · intro h
        cases h
        exact Or.inl ⟨rfl, rfl⟩
      · rintro (⟨-, rfl⟩ | ⟨a, -, hvalue, -⟩)
        · rfl
        · cases a <;> cases hvalue
  · next hnull =>
      constructor
      · intro h
        cases hnumber : number v (·.isBelow 1) .columns with
        | error e =>
            rw [hnumber] at h
            cases h
        | ok a =>
            rw [hnumber] at h
            cases h
            exact Or.inr ⟨a, rfl, number_eq_ok_iff.1 hnumber⟩
      · rintro (⟨rfl, -⟩ | ⟨a, rfl, hvalue⟩)
        · exact absurd rfl hnull
        · rw [number_eq_ok_iff.2 hvalue]
          rfl


end Draft

variable [Scalar α]

/-- Whether a setting takes a value. -/
def Setting.Takes : Setting -> Value α -> Prop
  | .title, _ => True
  | .showDate, _ => True
  | .showToc, _ => True
  | .theme, v => exists t : Theme, v = .text t.name
  | .fontSize, v => exists a : Amount α, v = a.toValue ∧ a.isAtMost 0 = false
  | .margins, v => exists a : Amount α, v = a.toValue ∧ a.isBelow 0 = false
  | .lineHeight, v => exists a : Amount α, v = a.toValue ∧ a.isAtMost 0 = false
  | .direction, v => exists d : Direction, v = .text d.name
  | .compression, v => exists c : Compression, v = .text c.name
  | .columns, v => v = .null ∨ exists a : Amount α, v = a.toValue ∧ a.isBelow 1 = false

namespace Draft

variable {d : Draft α} {s : Settings α}

/-- What was accepted is kept as it was given. -/
theorem takes_of_check (h : d.check = .ok s) :
    d = ofSettings s ∧ forall x, Setting.Takes x (d.get x) := by
  rcases exists_of_bind h with ⟨theme, htheme, h⟩
  rcases exists_of_bind h with ⟨compression, hcompression, h⟩
  rcases exists_of_bind h with ⟨direction, hdirection, h⟩
  rcases exists_of_bind h with ⟨fontSize, hfont, h⟩
  rcases exists_of_bind h with ⟨lineHeight, hline, h⟩
  rcases exists_of_bind h with ⟨margins, hmargins, h⟩
  rcases exists_of_bind h with ⟨columns, hcolumns, h⟩
  cases h
  rw [elim_eq_ok_iff, named?_eq_some_iff Theme.ofName?_eq_some_iff] at htheme
  rw [elim_eq_ok_iff, named?_eq_some_iff Compression.ofName?_eq_some_iff] at hcompression
  rw [elim_eq_ok_iff, named?_eq_some_iff Direction.ofName?_eq_some_iff] at hdirection
  rw [number_eq_ok_iff] at hfont hline hmargins
  rw [columnCount_eq_ok_iff] at hcolumns
  constructor
  · apply ext_get
    intro x
    cases x with
    | title => rfl
    | showDate => rfl
    | showToc => rfl
    | theme => exact htheme
    | fontSize => exact hfont.1
    | margins => exact hmargins.1
    | lineHeight => exact hline.1
    | direction => exact hdirection
    | compression => exact hcompression
    | columns =>
        rcases hcolumns with ⟨hnull, rfl⟩ | ⟨a, rfl, hvalue, -⟩
        · exact hnull
        · exact hvalue
  · intro x
    cases x with
    | title => trivial
    | showDate => trivial
    | showToc => trivial
    | theme => exact ⟨theme, htheme⟩
    | fontSize => exact ⟨fontSize, hfont⟩
    | margins => exact ⟨margins, hmargins⟩
    | lineHeight => exact ⟨lineHeight, hline⟩
    | direction => exact ⟨direction, hdirection⟩
    | compression => exact ⟨compression, hcompression⟩
    | columns =>
        rcases hcolumns with ⟨hnull, -⟩ | ⟨a, -, hvalue⟩
        · exact Or.inl hnull
        · exact Or.inr ⟨a, hvalue⟩

/-- Values that are taken one by one are accepted together. -/
theorem exists_check (h : forall x, Setting.Takes x (d.get x)) : exists s, d.check = .ok s := by
  rcases h .theme with ⟨theme, htheme⟩
  rcases h .compression with ⟨compression, hcompression⟩
  rcases h .direction with ⟨direction, hdirection⟩
  rcases h .fontSize with ⟨fontSize, hfont⟩
  rcases h .lineHeight with ⟨lineHeight, hline⟩
  rcases h .margins with ⟨margins, hmargins⟩
  have hcolumns : exists count : Option (Amount α), columnCount d.columns = .ok count := by
    rcases h .columns with hnull | ⟨a, hvalue⟩
    · exact ⟨none, columnCount_eq_ok_iff.2 (Or.inl ⟨hnull, rfl⟩)⟩
    · exact ⟨some a, columnCount_eq_ok_iff.2 (Or.inr ⟨a, rfl, hvalue⟩)⟩
  rcases hcolumns with ⟨columns, hcolumns⟩
  have htheme' : named? Theme.ofName? d.theme = some theme :=
    (named?_eq_some_iff Theme.ofName?_eq_some_iff).2 htheme
  have hcompression' : named? Compression.ofName? d.compression = some compression :=
    (named?_eq_some_iff Compression.ofName?_eq_some_iff).2 hcompression
  have hdirection' : named? Direction.ofName? d.direction = some direction :=
    (named?_eq_some_iff Direction.ofName?_eq_some_iff).2 hdirection
  unfold check
  rw [htheme', hcompression', hdirection', number_eq_ok_iff.2 hfont, number_eq_ok_iff.2 hline,
    number_eq_ok_iff.2 hmargins, hcolumns]
  exact ⟨_, rfl⟩

end Draft
end Folio
