import Folio.Proofs.Heading.Anchor

/-!
# Words in anchors

A word of letters from A to Z and digits that stands in the text of a heading stands in its
anchor too, in small letters: each of the steps by which the name is made keeps it in one piece.
-/

namespace Folio
namespace Text

variable {w s : List Char}

/-!
## Letters and digits
-/

/-- What holds of the letters and digits among the first characters holds of all of them. -/
theorem of_isAlphanum {P : Char -> Prop} [DecidablePred P]
    (h : ∀ n < 123, (Char.ofNat n).isAlphanum = true -> P (Char.ofNat n)) {c : Char}
    (hc : c.isAlphanum = true) : P c := by
  have hbound : c.toNat < 123 := by
    have hletters : ((c.isUpper || c.isLower) || c.isDigit) = true := hc
    rw [Bool.or_eq_true, Bool.or_eq_true] at hletters
    rcases hletters with (hupper | hlower) | hdigit
    · have hlast : c.val ≤ 'Z'.val := (of_decide_eq_true hupper).2
      exact Nat.lt_of_le_of_lt (UInt32.le_iff_toNat_le.1 hlast) (by decide)
    · have hlast : c.val ≤ 'z'.val := of_decide_eq_true (Bool.and_eq_true_iff.1 hlower).2
      exact Nat.lt_of_le_of_lt (UInt32.le_iff_toNat_le.1 hlast) (by decide)
    · exact Nat.lt_of_le_of_lt (Char.isDigit_iff_toNat.1 hdigit).2 (by decide)
  have hself := h c.toNat hbound
  rw [Char.ofNat_toNat] at hself
  exact hself hc

theorem isBlank_of_isAlphanum {c : Char} (h : c.isAlphanum = true) : isBlank c = false :=
  of_isAlphanum (P := fun c => isBlank c = false) (by decide) h

theorem lowerChar_of_isAlphanum {c : Char} (h : c.isAlphanum = true) :
    lowerChar c = [c.toLower] :=
  of_isAlphanum (P := fun c => lowerChar c = [c.toLower]) (by decide) h

/-!
## Steps that keep a word
-/

theorem occurs_filter {p : Char -> Bool} (hw : ∀ c ∈ w, p c = true)
    (h : occurs w s = true) : occurs w (s.filter p) = true := by
  rcases occurs_iff.1 h with ⟨before, after, rfl⟩
  rw [List.filter_append, List.filter_append, List.filter_eq_self.2 hw]
  exact occurs_iff.2 ⟨_, _, rfl⟩

section

variable {p : Char -> Bool}

theorem clear_of_all (hne : w ≠ []) (hw : ∀ c ∈ w, p c = false) (hs : ∀ c ∈ s, p c = true) :
    Clear w s := by
  cases w with
  | nil => exact absurd rfl hne
  | cons d v =>
      apply clear_of_notMem
      intro hd
      exact Bool.noConfusion ((hs d hd).symm.trans (hw d List.mem_cons_self))

theorem occurs_append_of_all (hne : w ≠ []) (hw : ∀ c ∈ w, p c = false) {t : List Char}
    (ht : ∀ c ∈ t, p c = true) : occurs w (s ++ t) = occurs w s := by
  cases t with
  | nil => rw [List.append_nil]
  | cons c t =>
      have hc : c ∉ w := by
        intro hmem
        exact Bool.noConfusion ((ht c List.mem_cons_self).symm.trans (hw c hmem))
      have hrest := clear_of_all hne hw fun d hd => ht d (List.mem_cons_of_mem c hd)
      rw [occurs_append_cons hne hc, hrest.not_occurs hne, Bool.or_false]

/-- Dropping characters at both ends leaves a word alone that holds none of them. -/
theorem occurs_stripped (hne : w ≠ []) (hw : ∀ c ∈ w, p c = false) (s : List Char) :
    occurs w (dropRightWhile p (s.dropWhile p)) = occurs w s := by
  have hfront := clear_of_all hne hw (List.all_eq_true.1 (List.all_takeWhile (p := p) (l := s)))
  have hkept := hfront.occurs_append (s.dropWhile p)
  rw [List.takeWhile_append_dropWhile] at hkept
  rcases dropRightWhile_append p (s.dropWhile p) with ⟨tail, htail, hall⟩
  have hback := occurs_append_of_all (s := dropRightWhile p (s.dropWhile p)) hne hw
    (List.all_eq_true.1 hall)
  rw [← htail] at hback
  rw [hkept, hback]

end

/-- Lowering goes through a text from left to right. -/
theorem exists_lowerFrom_append (before s t : List Char) :
    exists x front, lowerFrom before (s ++ t) = x ++ lowerFrom front t := by
  induction s generalizing before with
  | nil => exact ⟨[], before, rfl⟩
  | cons c s ih =>
      -- The form of a sigma in `s` hangs on what follows, so nothing is said of the text it becomes.
      rcases ih (c :: before) with ⟨x, front, hx⟩
      rw [List.cons_append, lowerFrom, hx, ← List.append_assoc]
      exact ⟨_, front, rfl⟩

/-- A word of letters and digits is lowered whatever stands around it. -/
theorem exists_lowerFrom_word (hw : ∀ c ∈ w, c.isAlphanum = true) (before t : List Char) :
    exists front, lowerFrom before (w ++ t) = lowered w ++ lowerFrom front t := by
  induction w generalizing before with
  | nil => exact ⟨before, rfl⟩
  | cons c w ih =>
      rcases ih (fun d hd => hw d (List.mem_cons_of_mem c hd)) (c :: before) with ⟨front, hfront⟩
      have hc := hw c List.mem_cons_self
      have hsigma : c.toNat ≠ 0x3A3 :=
        of_isAlphanum (P := fun c => c.toNat ≠ 0x3A3) (by decide) hc
      refine ⟨front, ?_⟩
      rw [List.cons_append, lowerFrom, hfront, if_neg fun h => hsigma h.1,
        lowerChar_of_isAlphanum hc]
      rfl

theorem occurs_lower (hw : ∀ c ∈ w, c.isAlphanum = true) (h : occurs w s = true) :
    occurs (lowered w) (lower s) = true := by
  rcases occurs_iff.1 h with ⟨before, after, rfl⟩
  rcases exists_lowerFrom_append [] before (w ++ after) with ⟨x, front, hx⟩
  rcases exists_lowerFrom_word hw front after with ⟨behind, hbehind⟩
  refine occurs_iff.2 ⟨x, lowerFrom behind after, ?_⟩
  rw [lower, List.append_assoc, hx, hbehind, List.append_assoc]

end Text

namespace Heading

open Text

variable {w s : List Char}

theorem exists_hyphenated_append (inRun : Bool) (s t : List Char) :
    exists x r, hyphenated inRun (s ++ t) = x ++ hyphenated r t := by
  induction s generalizing inRun with
  | nil => exact ⟨[], inRun, rfl⟩
  | cons c s ih =>
      rw [List.cons_append, hyphenated]
      rcases ih true with ⟨x, r, hx⟩
      rcases ih false with ⟨y, q, hy⟩
      split
      · split
        · exact ⟨x, r, hx⟩
        · exact ⟨'-' :: x, r, by rw [hx]; rfl⟩
      · exact ⟨c :: y, q, by rw [hy]; rfl⟩

theorem exists_hyphenated_word (hw : ∀ c ∈ w, parts c = false) (inRun : Bool) (t : List Char) :
    exists r, hyphenated inRun (w ++ t) = w ++ hyphenated r t := by
  induction w generalizing inRun with
  | nil => exact ⟨inRun, rfl⟩
  | cons c w ih =>
      rcases ih (fun d hd => hw d (List.mem_cons_of_mem c hd)) false with ⟨r, hr⟩
      refine ⟨r, ?_⟩
      rw [List.cons_append, hyphenated, hw c List.mem_cons_self, hr]
      rfl

theorem occurs_hyphenated (hw : ∀ c ∈ w, parts c = false) (h : occurs w s = true) :
    occurs w (hyphenated false s) = true := by
  rcases occurs_iff.1 h with ⟨before, after, rfl⟩
  rcases exists_hyphenated_append false before (w ++ after) with ⟨x, r, hx⟩
  rcases exists_hyphenated_word hw r after with ⟨q, hq⟩
  refine occurs_iff.2 ⟨x, hyphenated q after, ?_⟩
  rw [List.append_assoc, hx, hq, List.append_assoc]

/-- A word of letters and digits in the text of a heading stands lowered in its name. -/
theorem occurs_slug (hne : w ≠ []) (hw : ∀ c ∈ w, c.isAlphanum = true)
    (h : occurs w s = true) : occurs (lowered w) (slug s) = true := by
  have hlowered : ∀ c ∈ lowered w, parts c = false := by
    intro c hc
    rcases List.mem_map.1 hc with ⟨d, hd, rfl⟩
    exact of_isAlphanum (P := fun d => parts d.toLower = false) (by decide) (hw d hd)
  have hcounted := occurs_filter (p := counts) (fun c hc =>
    of_isAlphanum (P := fun c => counts c = true) (by decide) (hw c hc)) h
  have htrimmed : occurs w (trim (s.filter counts)) = true :=
    (occurs_stripped hne (fun c hc => isBlank_of_isAlphanum (hw c hc)) _).trans hcounted
  have hlowered_ne : lowered w ≠ [] := by
    intro hnil
    exact hne (List.map_eq_nil_iff.1 hnil)
  have hname : occurs (lowered w)
      (stripHyphens (hyphenated false (lower (trim (s.filter counts))))) = true := by
    refine (occurs_stripped hlowered_ne ?_ _).trans
      (occurs_hyphenated hlowered (occurs_lower hw htrimmed))
    intro c hc
    have hparts := hlowered c hc
    rw [parts, Bool.or_eq_false_iff] at hparts
    exact hparts.2
  unfold slug
  simp only
  split
  next hempty =>
    rw [List.isEmpty_iff.1 hempty, occurs, List.isEmpty_iff] at hname
    exact absurd hname hlowered_ne
  · exact hname

theorem occurs_anchor (hne : w ≠ []) (hw : ∀ c ∈ w, c.isAlphanum = true)
    (h : occurs w s = true) (count : Nat) : occurs (lowered w) (anchor s count) = true := by
  rcases occurs_iff.1 (occurs_slug hne hw h) with ⟨before, after, hslug⟩
  refine occurs_iff.2 ⟨before, after ++ '-' :: Number.digitsOf count, ?_⟩
  rw [anchor, hslug]
  simp only [List.append_assoc]

end Heading
end Folio
