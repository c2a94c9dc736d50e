import Folio.Text.Blank
import Folio.Text.Utf8

/-!
# Reading what was written

The bytes of a text are read as that text. The bytes of each character are read as that character
whatever follows them, because a second byte is never one that the first one rules out. Bringing
line ends into one form changes a text only if it holds a carriage return, and trimming changes
one only at its ends.
-/

namespace Folio
namespace Text

/-!
## One character
-/

/-- The characters are the numbers below a bound, without the surrogates. -/
theorem toNat_lt_or (c : Char) : c.toNat < 0xD800 ∨ 0xDFFF < c.toNat ∧ c.toNat < 0x110000 :=
  c.valid

theorem isContinuation_iff {b : Nat} : isContinuation b = true ↔ 0x80 ≤ b ∧ b < 0xC0 := by
  unfold isContinuation
  rw [decide_eq_true_iff]
  omega

/-- Some first bytes rule out a part of the second ones. -/
theorem isSecond_iff {b c : Nat} :
    isSecond b c = true ↔ (0x80 ≤ c ∧ c < 0xC0) ∧ (b = 0xE0 -> 0xA0 ≤ c) ∧ (b = 0xED -> c < 0xA0) ∧
      (b = 0xF0 -> 0x90 ≤ c) ∧ (b = 0xF4 -> c < 0x90) := by
  rw [isSecond, Bool.and_eq_true, isContinuation_iff]
  refine and_congr_right fun _ => ?_
  split
  next hb => simp [hb]
  split
  next hb => simp [hb]
  split
  next hb => simp [hb]
  split
  next hb => simp [hb]
  next h1 h2 h3 h4 => simp [h1, h2, h3, h4]

theorem codeOf_succ (b count : Nat) (more : List Nat) :
    codeOf b (count + 1) more =
      more.foldl (fun n c => n * 0x40 + c % 0x40) (b % Nat.pow 2 (5 - count)) := by
  have hbits : 6 - (count + 1) = 5 - count := Nat.succ_sub_succ 5 count
  rw [codeOf, if_neg (Nat.succ_ne_zero count), hbits]

/-- Bytes of which the second one may stand where it does are read as the character of their
code. -/
theorem unitAt_of_codeOf {b second : Nat} {more : List Nat} {c : Char} (rest : List Nat)
    (hcount : continuations? b = some (more.length + 1)) (hsecond : isSecond b second = true)
    (hmore : ∀ d ∈ more, isContinuation d = true)
    (hcode : codeOf b (more.length + 1) (second :: more) = c.toNat) :
    unitAt b (second :: more ++ rest) = .char c ((second :: more).length + 1) := by
  have htake : (second :: more ++ rest).take (more.length + 1) = second :: more := by
    rw [← List.length_cons, List.take_left]
  have hcontinued : continued b (second :: more) = second :: more := by
    have htaken : (more ++ []).takeWhile isContinuation = more ++ [].takeWhile isContinuation :=
      List.takeWhile_append_of_pos hmore
    rw [List.takeWhile_nil, List.append_nil] at htaken
    rw [continued, if_pos hsecond, htaken]
  simp only [unitAt, hcount, htake, hcontinued, List.length_cons, if_true, hcode,
    Char.ofNat_toNat]

/-- The bytes of a character are read as that character, whatever follows them. -/
theorem unitAt_utf8 (c : Char) (rest : List Nat) :
    exists b more, utf8 c = b :: more ∧ unitAt b (more ++ rest) = .char c (more.length + 1) := by
  -- A character of three or four bytes is not short enough for fewer, and no surrogate: this keeps
  -- its second byte among those that the first one allows.
  have hvalid := toNat_lt_or c
  unfold utf8
  simp only []
  split
  next hone =>
    refine ⟨_, [], rfl, ?_⟩
    have hcount : continuations? c.toNat = some 0 := if_pos hone
    simp only [unitAt, hcount, continued, codeOf, List.take_zero, List.length_nil, if_true,
      List.foldl_nil, Char.ofNat_toNat]
  split
  next hone htwo =>
    refine ⟨_, _, rfl, unitAt_of_codeOf rest ?_ ?_ ?_ ?_⟩
    · unfold continuations?
      rw [if_neg (by omega), if_neg (by omega), if_pos (by omega)]
      rfl
    · rw [isSecond_iff]
      omega
    · simp
    · rw [codeOf_succ]
      simp only [List.length_nil, List.foldl_cons, List.foldl_nil, Nat.reduceSub, Nat.pow_eq,
        Nat.reducePow]
      omega
  split
  next hone htwo hthree =>
    refine ⟨_, _, rfl, unitAt_of_codeOf rest ?_ ?_ ?_ ?_⟩
    · unfold continuations?
      rw [if_neg (by omega), if_neg (by omega), if_neg (by omega), if_pos (by omega)]
      rfl
    · rw [isSecond_iff]
      omega
    · simp only [List.mem_singleton, forall_eq, isContinuation_iff]
      omega
    · rw [codeOf_succ]
      simp only [List.length_cons, List.length_nil, List.foldl_cons, List.foldl_nil,
        Nat.reduceAdd, Nat.reduceSub, Nat.pow_eq, Nat.reducePow]
      omega
  next hone htwo hthree =>
    refine ⟨_, _, rfl, unitAt_of_codeOf rest ?_ ?_ ?_ ?_⟩
    · unfold continuations?
      rw [if_neg (by omega), if_neg (by omega), if_neg (by omega), if_neg (by omega),
        if_pos (by omega)]
      rfl
    · rw [isSecond_iff]
      omega
    · simp only [List.mem_cons, List.not_mem_nil, or_false, isContinuation_iff]
      omega
    · rw [codeOf_succ]
      simp only [List.length_cons, List.length_nil, List.foldl_cons, List.foldl_nil,
        Nat.reduceAdd, Nat.reduceSub, Nat.pow_eq, Nat.reducePow]
      omega

/-!
## A text
-/

theorem readUtf8_length (position : Nat) (passed rest : List Nat) :
    readUtf8 position passed.length (passed ++ rest) =
      readUtf8 (position + passed.length) 0 rest := by
  induction passed generalizing position with
  | nil => rfl
  | cons b passed ih =>
      rw [List.length_cons, List.cons_append, readUtf8, ih, Nat.add_assoc, Nat.add_comm 1]

theorem readUtf8_utf8 (position : Nat) (c : Char) (rest : List Nat) :
    exists after, readUtf8 position 0 (utf8 c ++ rest) = .ok c :: readUtf8 after 0 rest := by
  rcases unitAt_utf8 c rest with ⟨b, more, hbytes, hunit⟩
  refine ⟨position + 1 + more.length, ?_⟩
  rw [hbytes, List.cons_append, readUtf8]
  simp only [hunit, Nat.add_sub_cancel]
  rw [readUtf8_length]

theorem readUtf8_utf8Bytes (position : Nat) (s : List Char) :
    readUtf8 position 0 (utf8Bytes s) = s.map .ok := by
  induction s generalizing position with
  | nil => rfl
  | cons c rest ih =>
      rcases readUtf8_utf8 position c (utf8Bytes rest) with ⟨after, hread⟩
      rw [utf8Bytes, List.flatMap_cons, ← utf8Bytes, hread, ih, List.map_cons]

/-- The bytes of a text are read as that text. -/
theorem decodeUtf8_utf8Bytes (s : List Char) : decodeUtf8 (utf8Bytes s) = .ok s := by
  rw [decodeUtf8, readUtf8_utf8Bytes]
  induction s with
  | nil => rfl
  | cons c rest ih => rw [List.map_cons, List.mapM_cons, ih]; rfl

/-!
## Line ends
-/

theorem unifyLineEnds_of_notMem {s : List Char} (h : '\r' ∉ s) : unifyLineEnds s = s := by
  fun_induction unifyLineEnds s with
  | case1 => rfl
  | case2 rest ih => exact absurd List.mem_cons_self h
  | case3 rest hpair ih => exact absurd List.mem_cons_self h
  | case4 c rest hpair hreturn ih => rw [ih fun hrest => h (List.mem_cons_of_mem c hrest)]

theorem notMem_unifyLineEnds (s : List Char) : '\r' ∉ unifyLineEnds s := by
  fun_induction unifyLineEnds s with
  | case1 => exact List.not_mem_nil
  | case2 rest ih => exact List.not_mem_cons_of_ne_of_not_mem (by decide) ih
  | case3 rest hpair ih => exact List.not_mem_cons_of_ne_of_not_mem (by decide) ih
  | case4 c rest hpair hreturn ih =>
      exact List.not_mem_cons_of_ne_of_not_mem (fun hc => hreturn hc.symm) ih

/-!
## Blanks
-/

/-- What does not start with a blank is trimmed at its end only. -/
theorem trim_cons {c : Char} (hc : isBlank c = false) (s : List Char) :
    trim (c :: s) = trimRight (c :: s) := by
  rw [trim, trimLeft, List.dropWhile_cons_of_neg (by rw [hc]; exact Bool.false_ne_true)]

theorem dropRightWhile_cons_of_neg {p : Char -> Bool} {c : Char} (hc : p c = false)
    (s : List Char) : dropRightWhile p (c :: s) = c :: dropRightWhile p s := by
  rw [dropRightWhile_cons]
  cases dropRightWhile p s with
  | nil => rw [hc]; rfl
  | cons d kept => rfl

theorem mem_of_mem_dropRightWhile {p : Char -> Bool} {s : List Char} {c : Char}
    (h : c ∈ dropRightWhile p s) : c ∈ s := by
  rcases dropRightWhile_append p s with ⟨tail, hs, _⟩
  rw [hs]
  exact List.mem_append_left tail h

theorem dropRightWhile_append_of_all {p : Char -> Bool} (s : List Char) {t : List Char}
    (h : t.all p = true) : dropRightWhile p (s ++ t) = dropRightWhile p s := by
  induction s with
  | nil => exact (dropRightWhile_eq_nil_iff p t).2 h
  | cons c rest ih => rw [List.cons_append, dropRightWhile_cons, ih, ← dropRightWhile_cons]

theorem length_dropRightWhile_le (p : Char -> Bool) (s : List Char) :
    (dropRightWhile p s).length ≤ s.length := by
  rcases dropRightWhile_append p s with ⟨tail, hs, _⟩
  rw [congrArg List.length hs, List.length_append]
  omega

/-- A text stays as it is if its last character is not to be dropped. -/
theorem dropRightWhile_eq_self {p : Char -> Bool} {s : List Char}
    (h : ∀ c ∈ s.getLast?, p c = false) : dropRightWhile p s = s := by
  rcases dropRightWhile_append p s with ⟨tail, hs, htail⟩
  rcases List.eq_nil_or_concat tail with rfl | ⟨more, c, rfl⟩
  · rw [List.append_nil] at hs
    exact hs.symm
  · have hlast : s.getLast? = some c := by
      rw [hs, List.concat_eq_append, ← List.append_assoc, List.getLast?_concat]
    have hc : p c = true := List.all_eq_true.1 htail c (by simp)
    rw [h c hlast] at hc
    cases hc

/-- A text gets shorter if its last character is to be dropped. -/
theorem length_dropRightWhile_lt {p : Char -> Bool} {s : List Char} {c : Char}
    (hlast : s.getLast? = some c) (hc : p c = true) :
    (dropRightWhile p s).length < s.length := by
  rcases List.getLast?_eq_some_iff.1 hlast with ⟨before, rfl⟩
  rw [dropRightWhile_append_of_all before (by simp [hc]), List.length_append, List.length_singleton]
  exact Nat.lt_succ_of_le (length_dropRightWhile_le p before)

end Text
end Folio
