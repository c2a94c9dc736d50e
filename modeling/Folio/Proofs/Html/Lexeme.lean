import Folio.Proofs.Html.Reference

/-!
# Reading markup

A reader of markup takes it apart into tags, references and characters (`lexemes`): a closing
angle in a quoted value of an attribute ends no tag, and an opening angle that opens no tag is a
character. What is seen of a text is what its references stand for, and its characters
(`visible`); of a text that was escaped, the text itself (`visible_escapeQuoted_append`).
-/

namespace Folio
namespace Html

open Text Pattern

/-!
## Tags
-/

/-- Where a reader stands in a tag. -/
inductive Spot where
  /-- In the name of the element. -/
  | element
  /-- Between attributes. -/
  | gap
  /-- In the name of an attribute. -/
  | key
  /-- Behind that name. -/
  | keyEnd
  /-- Behind the sign that a value follows. -/
  | sign
  /-- In a value without quotes. -/
  | bare
  | quoted (mark : Char)
  deriving DecidableEq

def isTagBlank (c : Char) : Bool :=
  [' ', '\t', '\n', '\x0c', '\r'].contains c

namespace Spot

/-- Where a reader stands behind a character that does not end the tag. -/
def next (c : Char) : Spot -> Spot
  | element => if isTagBlank c || c = '/' then gap else element
  | gap => if isTagBlank c || c = '/' then gap else key
  | key => if isTagBlank c then keyEnd else if c = '/' then gap else if c = '=' then sign else key
  | keyEnd =>
      if isTagBlank c then keyEnd else if c = '/' then gap else if c = '=' then sign else key
  | sign => if isTagBlank c then sign else if c = '"' || c = '\'' then quoted c else bare
  | bare => if isTagBlank c then gap else bare
  | quoted mark => if c = mark then gap else quoted mark

def isQuoted : Spot -> Bool
  | quoted _ => true
  | _ => false

/-- What follows the tag. A tag without an end takes all of the text. -/
def rest (p : Spot) : List Char -> List Char
  | [] => []
  | c :: s => if c = '>' && !p.isQuoted then s else (p.next c).rest s

end Spot

/-- What follows the first closing angle. -/
def behindClose (s : List Char) : List Char :=
  (s.dropWhile (· ≠ '>')).tail

/-- What follows the end of a comment. -/
def commentEnd : List Char -> List Char
  | '-' :: '-' :: '>' :: s => s
  | '-' :: '-' :: '!' :: '>' :: s => s
  | _ :: s => commentEnd s
  | [] => []

/-- What follows a comment, behind the mark that opens it. -/
def commentRest : List Char -> List Char
  | '>' :: s => s
  | '-' :: '>' :: s => s
  | s => commentEnd s

/-- What follows the tag at the start of a text. -/
def tagRest? : List Char -> Option (List Char)
  | '<' :: '!' :: '-' :: '-' :: s => some (commentRest s)
  | '<' :: '/' :: c :: s =>
      some (if isAsciiLetter c then Spot.element.rest s else behindClose (c :: s))
  | '<' :: c :: s =>
      if isAsciiLetter c then some (Spot.element.rest s)
      else if c = '!' || c = '?' then some (behindClose s)
      else none
  | _ => none

/-!
## Lexemes
-/

/-- What a reader of markup takes at once. -/
inductive Lexeme where
  | letter (c : Char)
  | reference (written stands : List Char)
  | tag (written : List Char)
  deriving DecidableEq

def Lexeme.written : Lexeme -> List Char
  | letter c => [c]
  | reference w _ => w
  | tag w => w

/-- What is seen of a lexeme. -/
def Lexeme.seen : Lexeme -> List Char
  | letter c => [c]
  | reference _ stands => stands
  | tag _ => []

/-- What stands in a text before the rest of it. -/
def before (s after : List Char) : List Char :=
  s.take (s.length - after.length)

/-- The lexeme at the start of a text, and what follows it. -/
def lexeme (c : Char) (s : List Char) : Lexeme × List Char :=
  match tagRest? (c :: s) with
  | some after => (.tag (before (c :: s) after), after)
  | none =>
      match reference? (c :: s) with
      | some (stands, after) => (.reference (before (c :: s) after) stands, after)
      | none => (.letter c, s)

/-- The lexemes of a text; `skip` characters are still to be passed over. -/
def lexemesFrom (skip : Nat) : List Char -> List Lexeme
  | [] => []
  | c :: s =>
      match skip with
      | n + 1 => lexemesFrom n s
      | 0 => (lexeme c s).1 :: lexemesFrom (s.length - (lexeme c s).2.length) s

def lexemes (s : List Char) : List Lexeme :=
  lexemesFrom 0 s

/-- What is seen of markup: without tags, and with characters for references. -/
def visible (s : List Char) : List Char :=
  (lexemes s).flatMap Lexeme.seen

/-!
## Where tags end
-/

/-- Whether a tag ends where `after` follows: at a closing angle, or with all of the text. -/
def Ends (t after : List Char) : Prop :=
  after = [] ∨ t.getLast? = some '>'

/-- Whether `after` follows the tag that the start of a text belongs to. -/
def Cuts (s after : List Char) : Prop :=
  exists t, s = t ++ after ∧ Ends t after

theorem Ends.cons {t after : List Char} (h : Ends t after) (c : Char) : Ends (c :: t) after := by
  refine h.imp_right fun hlast => ?_
  rw [List.getLast?_cons, hlast]
  rfl

theorem Cuts.cons {s after : List Char} (h : Cuts s after) (c : Char) : Cuts (c :: s) after := by
  rcases h with ⟨t, ht, hends⟩
  exact ⟨c :: t, congrArg (c :: ·) ht, hends.cons c⟩

theorem cuts_nil : Cuts [] [] :=
  ⟨[], rfl, Or.inl rfl⟩

theorem cuts_close (s : List Char) : Cuts ('>' :: s) s :=
  ⟨['>'], rfl, Or.inr rfl⟩

theorem Spot.cuts_rest (p : Spot) (s : List Char) : Cuts s (p.rest s) := by
  induction s generalizing p with
  | nil => exact cuts_nil
  | cons c s ih =>
      rw [Spot.rest]
      split
      · next hclose =>
          rw [Bool.and_eq_true, decide_eq_true_iff] at hclose
          rw [hclose.1]
          exact cuts_close s
      · exact (ih (p.next c)).cons c

theorem cuts_behindClose (s : List Char) : Cuts s (behindClose s) := by
  induction s with
  | nil => exact cuts_nil
  | cons c s ih =>
      by_cases hc : c = '>'
      · subst hc
        exact cuts_close s
      · have hskip : behindClose (c :: s) = behindClose s := by
          rw [behindClose, List.dropWhile_cons_of_pos (by simpa using hc), behindClose]
        rw [hskip]
        exact ih.cons c

theorem cuts_commentEnd (s : List Char) : Cuts s (commentEnd s) := by
  fun_induction commentEnd s with
  | case1 s => exact ((cuts_close s).cons '-').cons '-'
  | case2 s => exact (((cuts_close s).cons '!').cons '-').cons '-'
  | case3 c s _ _ ih => exact ih.cons c
  | case4 => exact cuts_nil

theorem cuts_commentRest (s : List Char) : Cuts s (commentRest s) := by
  unfold commentRest
  split
  · exact cuts_close _
  · exact (cuts_close _).cons '-'
  · exact cuts_commentEnd s

theorem cuts_of_tagRest? {s after : List Char} (h : tagRest? s = some after) :
    exists inner, s = '<' :: inner ∧ Cuts inner after := by
  unfold tagRest? at h
  split at h
  · next s =>
      cases h
      exact ⟨_, rfl, (((cuts_commentRest s).cons '-').cons '-').cons '!'⟩
  · next c s =>
      cases h
      refine ⟨_, rfl, Cuts.cons ?_ '/'⟩
      split
      · exact (Spot.element.cuts_rest s).cons c
      · exact cuts_behindClose (c :: s)
  · next c s _ _ =>
      refine ⟨_, rfl, ?_⟩
      split at h
      · cases h
        exact (Spot.element.cuts_rest s).cons c
      · split at h
        · cases h
          exact (cuts_behindClose s).cons c
        · cases h
  · cases h

theorem tagRest?_cons_of_ne {c : Char} (h : c ≠ '<') (s : List Char) :
    tagRest? (c :: s) = none := by
  rw [Option.eq_none_iff_forall_ne_some]
  intro after hafter
  rcases cuts_of_tagRest? hafter with ⟨inner, hs, -⟩
  exact h (List.cons.inj hs).1

/-!
## Lexemes of a text
-/

theorem before_append (t after : List Char) : before (t ++ after) after = t := by
  rw [before, List.length_append, Nat.add_sub_cancel, List.take_left]

/-- What is known of a lexeme where `after` follows. -/
def Lexeme.Fits (after : List Char) : Lexeme -> Prop
  | letter _ => True
  | reference w stands => '<' ∉ w ∧ stands.length < w.length
  | tag w => Ends w after

theorem lexeme_of_tag {c : Char} {s after : List Char} (h : tagRest? (c :: s) = some after) :
    lexeme c s = (.tag (before (c :: s) after), after) := by
  rw [lexeme, h]

theorem lexeme_of_reference {c : Char} {s stands after : List Char} (hc : c ≠ '<')
    (h : reference? (c :: s) = some (stands, after)) :
    lexeme c s = (.reference (before (c :: s) after) stands, after) := by
  rw [lexeme, tagRest?_cons_of_ne hc]
  simp only [h]

theorem lexeme_of_letter {c : Char} {s : List Char} (htag : tagRest? (c :: s) = none)
    (hreference : reference? (c :: s) = none) : lexeme c s = (.letter c, s) := by
  rw [lexeme, htag]
  simp only [hreference]

/-- A text starts with its lexeme, and goes on with the rest. -/
theorem lexeme_spec (c : Char) (s : List Char) :
    c :: s = (lexeme c s).1.written ++ (lexeme c s).2 ∧ (lexeme c s).1.written ≠ [] ∧
      (lexeme c s).1.Fits (lexeme c s).2 := by
  cases htag : tagRest? (c :: s) with
  | some after =>
      rcases cuts_of_tagRest? htag with ⟨inner, hinner, t, ht, hends⟩
      have hwritten : before (c :: s) after = '<' :: t := by
        rw [hinner, ht, ← List.cons_append, before_append]
      rw [lexeme_of_tag htag, hwritten, hinner, ht]
      exact ⟨rfl, List.cons_ne_nil _ _, hends.cons '<'⟩
  | none =>
      cases hreference : reference? (c :: s) with
      | none =>
          rw [lexeme_of_letter htag hreference]
          exact ⟨rfl, List.cons_ne_nil _ _, trivial⟩
      | some found =>
          rcases found with ⟨stands, after⟩
          rcases exists_of_reference? hreference with ⟨body, hbody, hopen, hlength⟩
          have hc : c = '&' := (List.cons.inj hbody).1
          have happend : c :: s = '&' :: (body ++ [';']) ++ after := by
            rw [hbody, List.cons_append, List.append_assoc, List.singleton_append]
          have hwritten : before (c :: s) after = '&' :: (body ++ [';']) := by
            rw [happend, before_append]
          have hwhole : ('&' :: (body ++ [';'])).length = body.length + 2 := by
            rw [List.length_cons, List.length_append, List.length_singleton]
          rw [lexeme_of_reference (by rw [hc]; decide) hreference, hwritten, happend]
          exact ⟨rfl, List.cons_ne_nil _ _, by simpa using hopen, hwhole ▸ hlength⟩

theorem lexemesFrom_length_append (t s : List Char) :
    lexemesFrom t.length (t ++ s) = lexemes s := by
  induction t with
  | nil => rfl
  | cons c t ih => exact ih

theorem lexemes_cons (c : Char) (s : List Char) :
    lexemes (c :: s) = (lexeme c s).1 :: lexemes (lexeme c s).2 := by
  rcases lexeme_spec c s with ⟨hs, hne, -⟩
  cases hwritten : (lexeme c s).1.written with
  | nil => exact absurd hwritten hne
  | cons d t =>
      rw [hwritten, List.cons_append, List.cons.injEq] at hs
      have hskip : s.length - (lexeme c s).2.length = t.length := by
        have hlength := congrArg List.length hs.2
        rw [List.length_append] at hlength
        omega
      have hrest := lexemesFrom_length_append t (lexeme c s).2
      rw [← hs.2, ← hskip] at hrest
      rw [← hrest]
      rfl

/-- Go through a text lexeme by lexeme. -/
@[elab_as_elim]
theorem lexemes_induction {motive : List Char -> List Lexeme -> Prop} (nil : motive [] [])
    (cons : forall x after, x.Fits after -> motive after (lexemes after) ->
      motive (x.written ++ after) (x :: lexemes after))
    (s : List Char) : motive s (lexemes s) := by
  match s with
  | [] => exact nil
  | c :: s =>
      have hspec := lexeme_spec c s
      have hlength : (lexeme c s).2.length < (c :: s).length := by
        have := List.length_pos_iff.2 hspec.2.1
        rw [hspec.1, List.length_append]
        omega
      have hrest := lexemes_induction nil cons (lexeme c s).2
      rw [lexemes_cons]
      have hcons := cons _ _ hspec.2.2 hrest
      rwa [← hspec.1] at hcons
termination_by s.length
decreasing_by exact hlength

/-!
## What is seen
-/

theorem visible_cons (c : Char) (s : List Char) :
    visible (c :: s) = (lexeme c s).1.seen ++ visible (lexeme c s).2 := by
  rw [visible, lexemes_cons, List.flatMap_cons, visible]

theorem visible_of_reference {s stands after : List Char}
    (h : reference? s = some (stands, after)) : visible s = stands ++ visible after := by
  rcases exists_of_reference? h with ⟨body, rfl, -⟩
  rw [visible_cons, lexeme_of_reference (by decide) h]
  rfl

theorem visible_of_tag {s after : List Char} (h : tagRest? s = some after) :
    visible s = visible after := by
  rcases cuts_of_tagRest? h with ⟨inner, rfl, -⟩
  rw [visible_cons, lexeme_of_tag h]
  rfl

theorem visible_quotedChar_append (c : Char) (s : List Char) :
    visible (quotedChar c ++ s) = c :: visible s := by
  by_cases hself : quotedChar c = [c]
  · have hopen : c ≠ '<' := by
      intro hc
      exact absurd (hc ▸ hself) (by decide)
    have hmark : c ≠ '&' := by
      intro hc
      exact absurd (hc ▸ hself) (by decide)
    rw [hself, List.singleton_append, visible_cons,
      lexeme_of_letter (tagRest?_cons_of_ne hopen s) (reference?_cons_of_ne hmark s)]
    rfl
  · exact visible_of_reference (reference?_quotedChar hself s)

/-- Of a text that was escaped the text is seen. -/
theorem visible_escapeQuoted_append (s t : List Char) :
    visible (escapeQuoted s ++ t) = s ++ visible t := by
  induction s with
  | nil => rfl
  | cons c s ih =>
      have hcons : escapeQuoted (c :: s) = quotedChar c ++ escapeQuoted s := rfl
      rw [hcons, List.append_assoc, visible_quotedChar_append, ih, List.cons_append]

end Html
end Folio
