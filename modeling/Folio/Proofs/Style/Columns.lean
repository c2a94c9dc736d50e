import Folio.Style.Stylesheet
import Folio.Proofs.Document.Declared
import Folio.Proofs.Number.Numeral
import Folio.Proofs.Text.Occurrence

/-!
# The count of columns in a stylesheet

Only a compressed document is set in columns, and its stylesheet sets their count exactly once.
A text of the stylesheet is calm when it neither holds the name that sets the count nor ends
within one. The rules are made of calm texts, so that the name stands only where it is written.
-/

namespace Folio
namespace Style

open Number Text

/-!
## Calm texts
-/

/-- The name that sets the count of columns. -/
def countName : List Char := "column-count".toList

/-- The end of that name. Texts of a stylesheet often end as the name starts, in `c` as a color
may, but none ends as this part of it starts. -/
def countEnd : List Char := ['u', 'm', 'n', '-', 'c', 'o', 'u', 'n', 't']

/-- Whether no `column-count` ends in a text, or starts in it and goes on behind it. -/
structure Calm (s : List Char) : Prop where
  clear : Clear countEnd s

instance (s : List Char) : Decidable (Calm s) :=
  decidable_of_iff (Clear countEnd s) ⟨Calm.mk, Calm.clear⟩

namespace Calm

variable {a b s : List Char}

theorem append (ha : Calm a) (hb : Calm b) : Calm (a ++ b) :=
  ⟨ha.clear.append hb.clear⟩

/-- A value is set between two texts. -/
theorem between (ha : Calm a) (hs : Calm s) (hb : Calm b) : Calm (a ++ s ++ b) :=
  (ha.append hs).append hb

theorem literal (h : Calm s) : Calm (String.ofList s).toList := by
  rw [String.toList_ofList]
  exact h

theorem of_notMem (h : 'u' ∉ s) : Calm s :=
  ⟨clear_of_notMem h⟩

theorem replicate (n : Nat) : Calm (List.replicate n ' ') :=
  of_notMem fun h => absurd (List.eq_of_mem_replicate h) (by decide)

theorem flatMap {β : Type} {f : β -> List Char} {l : List β} (h : ∀ x ∈ l, Calm (f x)) :
    Calm (l.flatMap f) := by
  induction l with
  | nil => exact of_notMem List.not_mem_nil
  | cons x l ih =>
      rw [List.flatMap_cons]
      exact (h x List.mem_cons_self).append (ih fun y hy => h y (List.mem_cons_of_mem x hy))

theorem not_occurs (h : Calm s) : occurs countName s = false := by
  have hend : occurs countEnd s = false := by
    have happend := h.clear.occurs_append []
    rw [List.append_nil] at happend
    exact happend
  rw [Bool.eq_false_iff] at hend ⊢
  intro hocc
  rcases occurs_iff.1 hocc with ⟨before, after, hs⟩
  refine hend (occurs_iff.2 ⟨before ++ "col".toList, after, ?_⟩)
  rw [hs, List.append_assoc, List.append_assoc, List.append_assoc]
  rfl

end Calm

/-!
## Calm parts
-/

/-- Whether all texts of a part are calm. -/
def Part.IsCalm : Part -> Prop
  | .rule selector declarations => Calm selector ∧ ∀ d ∈ declarations, Calm d
  | .line selector declarations => Calm selector ∧ Calm declarations
  | .note text => Calm text
  | .gap => True

theorem isCalm_rule {selector : List Char} {declarations : List (List Char)} :
    (Part.rule selector declarations).IsCalm ↔ Calm selector ∧ ∀ d ∈ declarations, Calm d :=
  Iff.rfl

theorem isCalm_line {selector declarations : List Char} :
    (Part.line selector declarations).IsCalm ↔ Calm selector ∧ Calm declarations :=
  Iff.rfl

theorem isCalm_note {text : List Char} : (Part.note text).IsCalm ↔ Calm text :=
  Iff.rfl

theorem isCalm_gap : Part.gap.IsCalm :=
  trivial

theorem calm_braced (column : Nat) {selector inner : List Char} (hselector : Calm selector)
    (hinner : Calm inner) : Calm (braced column selector inner) := by
  have hopen : Calm (List.replicate column ' ' ++ selector ++ " \x7b\n".toList) :=
    .between (.replicate column) hselector (by decide)
  exact .between (hopen.append hinner) (.replicate column) (by decide)

theorem calm_declarations (column : Nat) {declarations : List (List Char)}
    (h : ∀ d ∈ declarations, Calm d) :
    Calm (declarations.flatMap fun d => List.replicate column ' ' ++ d ++ ['\n']) :=
  .flatMap fun d hd => .between (.replicate column) (h d hd) (by decide)

theorem Part.IsCalm.write (column : Nat) {p : Part} (h : p.IsCalm) : Calm (p.write column) := by
  cases p with
  | rule selector declarations =>
      exact calm_braced column h.1 (calm_declarations (column + 2) h.2)
  | line selector declarations =>
      have hopen : Calm (List.replicate column ' ' ++ selector ++ " \x7b ".toList) :=
        .between (.replicate column) h.1 (by decide)
      exact .between hopen h.2 (by decide)
  | note text =>
      have hopen : Calm (List.replicate column ' ' ++ "/* ".toList) :=
        (Calm.replicate column).append (by decide)
      exact .between hopen h (by decide)
  | gap => exact (by decide : Calm ['\n'])

/-- Whether the fonts and colors of a theme are calm. -/
structure Tokens.IsCalm (t : Tokens) : Prop where
  headerFont : Calm t.headerFont
  bodyFont : Calm t.bodyFont
  heading : Calm t.heading
  border : Calm t.border
  background : Calm t.background
  accent : Calm t.accent
  text : Calm t.text
  tint : ∀ opacity, Calm opacity -> Calm (tint t.accent opacity)

/-- Whether all that the rules take from a look is calm. -/
structure Look.IsCalm (k : Look) : Prop where
  tokens : k.tokens.IsCalm
  padding : Calm k.padding
  fontSize : Calm k.fontSize
  lineHeight : Calm k.lineHeight
  titleSize : Calm k.titleSize
  boxPadding : Calm k.boxPadding
  boxMargin : Calm k.boxMargin
  align : Calm k.align
  side : Calm k.side
  farSide : Calm k.farSide
  headerRule : Calm k.headerRule
  theoryBackground : Calm k.theoryBackground
  theoryBorder : Calm k.theoryBorder
  zebra : Calm k.zebra

theorem Look.IsCalm.screenRules {k : Look} (h : k.IsCalm) : ∀ p ∈ screenRules k, p.IsCalm := by
  rcases h with ⟨⟨_, _, _, _, _, _, _, htint⟩, _, _, _, _, _, _, _, _, _, _, _, _, _⟩
  simp only [Style.screenRules, pageRules, contentRules, headerRules, contentsRules, mathRules,
    headingRules, textRules, tableRules, boxRules, layoutRules, List.flatMap_cons,
    List.flatMap_nil, List.forall_mem_append, List.forall_mem_cons, isCalm_rule, isCalm_line,
    isCalm_note, isCalm_gap, List.not_mem_nil, false_implies, implies_true, and_true]
  -- every text is made of fixed texts and of values of the look
  repeat' with_reducible first
    | refine And.intro ?_ ?_
    | refine Calm.literal ?_
    | assumption
    | refine htint _ ?_
    | refine Calm.between ?_ ?_ ?_
  all_goals decide +kernel

variable {α : Type} [Scalar α]

/-- Whether the sizes of a preset are calm. -/
structure Preset.IsCalm (p : Preset α) : Prop where
  padding : Calm p.padding
  titleSize : Calm p.titleSize
  boxPadding : Calm p.boxPadding
  headingMarginTop : Calm p.headingMarginTop
  headingMarginBottom : Calm p.headingMarginBottom
  paragraphMargin : Calm p.paragraphMargin

end Style
end Folio
