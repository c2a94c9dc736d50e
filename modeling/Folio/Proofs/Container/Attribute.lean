import Folio.Proofs.Container.Region
import Folio.Proofs.Heading.Slug
import Folio.Proofs.Text.Lowered
import Mathlib.Data.List.Chain

/-!
# The class among the attributes of a tag

The class of a tag is looked for in the text of its attributes, from left to right, and the
attributes are not told apart. On the way a name that ends in the letters of `class` behind a
hyphen is taken for the name itself, and so is an assignment that a value holds or begins
(`firstClassValue?_written`). The class is read as declared where no other attribute holds the
letters of `class` (`className?_eq_declared`), and exactly if nothing in front of it is taken for
it, or what is taken names the same container first (`className?_eq_declared_iff`).
-/

namespace Folio
namespace Container

open Text

/-!
## Attributes
-/

/-- The marks that a value stands in. -/
inductive Quote where
  | double
  | single
  deriving DecidableEq, Repr

def Quote.char : Quote -> Char
  | .double => '"'
  | .single => '\''

/-- Whether a character may stand in the name of an attribute. -/
def isNameChar (c : Char) : Bool :=
  !isBlank c && !("=\"'<>".toList.contains c)

/-- The value of an attribute, with the blanks around the equals sign. -/
structure AttributeValue where
  before : List Char
  behind : List Char
  quote : Quote
  text : List Char
  allBlank_before : allBlank before = true
  allBlank_behind : allBlank behind = true
  quote_notMem : quote.char ∉ text

/-- An attribute of a tag, with the blanks behind it. -/
structure TagAttribute where
  name : List Char
  value? : Option AttributeValue
  gap : List Char
  name_ne_nil : name ≠ []
  isName : ∀ c ∈ name, isNameChar c = true
  allBlank_gap : allBlank gap = true

/-- A value with the equals sign in front of it, and what stands behind it. -/
def AttributeValue.write (v : AttributeValue) (rest : List Char) : List Char :=
  v.before ++ '=' :: (v.behind ++ v.quote.char :: (v.text ++ v.quote.char :: rest))

/-- An attribute in front of a text. -/
def TagAttribute.write (a : TagAttribute) (rest : List Char) : List Char :=
  match a.value? with
  | none => a.name ++ (a.gap ++ rest)
  | some v => a.name ++ v.write (a.gap ++ rest)

/-- Attributes as they are written. -/
def writeAttributes (l : List TagAttribute) : List Char :=
  l.foldr TagAttribute.write []

/-- Whether there are blanks between attributes. -/
def Spaced (l : List TagAttribute) : Prop :=
  l.IsChain fun a _ => a.gap ≠ []

/-- Whether an attribute is named `class`, in any letter case. -/
def TagAttribute.isClass (a : TagAttribute) : Bool :=
  lowered a.name == "class".toList

/-- The value of the attribute that is named `class`. -/
def declaredValue? (l : List TagAttribute) : Option (List Char) :=
  l.findSome? fun a => if a.isClass then a.value?.map AttributeValue.text else none

/-- The first word of the vocabulary in the value of a class. -/
def firstName? (value : List Char) : Option (List Char) :=
  (words value).find? (names.contains ·)

/-- The class that attributes declare. -/
def declared? (l : List TagAttribute) : Option (List Char) :=
  (declaredValue? l).bind firstName?

/-!
## What is taken for a class
-/

/-- Whether a word goes on behind a text, if `inWord` tells whether one goes on in front. -/
def endsInWord (inWord : Bool) (s : List Char) : Bool :=
  s.foldl (fun _ c => isWord c) inWord

/-- Whether a name ends in the letters of `class` where no word goes on. -/
def endsInClass (inWord : Bool) : List Char -> Bool
  | [] => false
  | c :: rest =>
      !inWord && dropLetters? "class".toList (c :: rest) == some [] ||
        endsInClass (isWord c) rest

/-- The value that is read at the first place in a text where a class is read, with what stands
behind the text. -/
def readWithin? (inWord : Bool) (behind : List Char) : List Char -> Option (List Char)
  | [] => none
  | c :: rest =>
      match (if inWord then none else classValue? (c :: (rest ++ behind))) with
      | some value => some value
      | none => readWithin? (isWord c) behind rest

/-- What is taken for the value of a class in an attribute: the value of one whose name ends in
`class`, and else what is read in its value. -/
def TagAttribute.taken? (a : TagAttribute) (rest : List Char) : Option (List Char) :=
  match a.value? with
  | none => none
  | some v =>
      if endsInClass false a.name then some v.text
      else readWithin? false (v.quote.char :: (a.gap ++ rest)) v.text

/-- What is taken for the value of the class in front of it. -/
def mistaken? : List TagAttribute -> Option (List Char)
  | [] => none
  | a :: rest =>
      if a.isClass && a.value?.isSome then none
      else (a.taken? (writeAttributes rest)).or (mistaken? rest)

/-!
## Blanks and letters
-/

/-- All characters that are blank. -/
def blanks : List Char :=
  blankRanges.flatMap fun r => (List.range' r.1 (r.2 + 1 - r.1)).map Char.ofNat

theorem mem_blanks {c : Char} (h : isBlank c = true) : c ∈ blanks := by
  rcases Ranges.exists_of_holds h with ⟨r, hr, hfirst, hlast⟩
  apply List.mem_flatMap.2
  refine ⟨r, hr, List.mem_map.2 ⟨c.toNat, ?_, Char.ofNat_toNat c⟩⟩
  rw [List.mem_range'_1]
  omega

theorem isWord_of_isBlank {c : Char} (h : isBlank c = true) : isWord c = false := by
  have hall : (blanks.all fun c => !isWord c) = true := by decide +kernel
  have hblank := List.all_eq_true.1 hall c (mem_blanks h)
  rw [Bool.not_eq_true'] at hblank
  exact hblank

/-- Whether a character is none of the letters of `class` to the reader. -/
def isForeign (c : Char) : Bool :=
  "class".toList.all fun p => !sameLetter p c

theorem isForeign_iff {c : Char} :
    isForeign c = true ↔ ∀ p ∈ "class".toList, sameLetter p c = false := by
  rw [isForeign, List.all_eq_true]
  simp only [Bool.not_eq_true']

theorem isForeign_of_isBlank {c : Char} (h : isBlank c = true) : isForeign c = true := by
  have hall : blanks.all isForeign = true := by decide
  exact List.all_eq_true.1 hall c (mem_blanks h)

theorem isForeign_equals : isForeign '=' = true := by
  decide

theorem isForeign_quote (q : Quote) : isForeign q.char = true := by
  cases q with
  | double => decide
  | single => decide

theorem isWord_quote (q : Quote) : isWord q.char = false := by
  cases q with
  | double => decide
  | single => decide

theorem sameLetter_of_toLower {c p : Char} (hp : p ∈ "class".toList) (h : c.toLower = p) :
    sameLetter p c = true := by
  have hletters : "class".toList.all Char.isAlphanum = true := by decide
  have halphanum : c.isAlphanum = true := by
    cases hupper : c.isUpper with
    | true =>
        show ((c.isUpper || c.isLower) || c.isDigit) = true
        rw [hupper]
        rfl
    | false =>
        rw [toLower_eq_self hupper] at h
        exact h ▸ List.all_eq_true.1 hletters p hp
  have hsame := of_isAlphanum
    (P := fun c => ("class".toList.all fun p => c.toLower != p || sameLetter p c) = true)
    (by decide) halphanum
  have hletter := List.all_eq_true.1 hsame p hp
  rw [h, bne_self_eq_false, Bool.false_or] at hletter
  exact hletter

/-!
## The scan
-/

/-- What is assigned behind the letters of a class. -/
def assigned? (s : List Char) : Option (List Char) :=
  match s.dropWhile isBlank with
  | '=' :: rest =>
      match rest.dropWhile isBlank with
      | quote :: value =>
          if (quote = '"' || quote = '\'') && value.contains quote then
            some (value.takeWhile (· ≠ quote))
          else
            none
      | [] => none
  | _ => none

theorem classValue?_eq (s : List Char) :
    classValue? s = (dropLetters? "class".toList s).bind assigned? := rfl

theorem classValue?_cons_of_isForeign {c : Char} (h : isForeign c = true) (s : List Char) :
    classValue? (c :: s) = none := by
  have hfirst : sameLetter 'c' c = false := isForeign_iff.1 h 'c' (by decide)
  rw [classValue?_eq]
  show ((if sameLetter 'c' c then dropLetters? "lass".toList s else none).bind assigned?) = none
  rw [hfirst]
  rfl

theorem firstClassValue?_append (inWord : Bool) (p s : List Char) :
    firstClassValue? inWord (p ++ s) =
      (readWithin? inWord s p).or (firstClassValue? (endsInWord inWord p) s) := by
  induction p generalizing inWord with
  | nil => rfl
  | cons c p ih =>
      rw [List.cons_append, firstClassValue?, readWithin?]
      cases (if inWord then none else classValue? (c :: (p ++ s))) with
      | none => exact ih (isWord c)
      | some value => rfl

/-- Characters that stand for no letter only end a word. -/
theorem firstClassValue?_append_of_isForeign {p : List Char} (hne : p ≠ [])
    (hp : ∀ c ∈ p, isForeign c = true ∧ isWord c = false) (inWord : Bool) (s : List Char) :
    firstClassValue? inWord (p ++ s) = firstClassValue? false s := by
  induction p generalizing inWord with
  | nil => exact absurd rfl hne
  | cons c p ih =>
      have hc := hp c List.mem_cons_self
      have hnone : (if inWord then none else classValue? (c :: (p ++ s))) = none := by
        rw [classValue?_cons_of_isForeign hc.1, ite_self]
      rw [List.cons_append, firstClassValue?, hnone]
      simp only [hc.2]
      cases p with
      | nil => rfl
      | cons d p => exact ih (List.cons_ne_nil d p) (List.forall_mem_cons.1 hp).2 false

theorem dropLetters?_append_of_isForeign {word : List Char} (hword : word <:+ "class".toList)
    {n tail : List Char} (htail : ∀ c ∈ tail.head?, isForeign c = true) :
    dropLetters? word (n ++ tail) = (dropLetters? word n).map (· ++ tail) := by
  induction word generalizing n with
  | nil => rfl
  | cons p word ih =>
      cases n with
      | nil =>
          cases tail with
          | nil => rfl
          | cons c tail =>
              have hforeign := isForeign_iff.1 (htail c rfl) p (hword.mem List.mem_cons_self)
              show (if sameLetter p c then dropLetters? word tail else none) = none
              rw [hforeign]
              rfl
      | cons c n =>
          rw [List.cons_append, dropLetters?, dropLetters?]
          split
          · exact ih ((List.suffix_cons p word).trans hword)
          · rfl

theorem assigned?_cons_of_isNameChar {c : Char} (h : isNameChar c = true) (s : List Char) :
    assigned? (c :: s) = none := by
  simp only [isNameChar, Bool.and_eq_true, Bool.not_eq_true'] at h
  have hequals : c ≠ '=' := by
    rintro rfl
    exact absurd h.2 (by decide)
  rw [assigned?, List.dropWhile_cons_of_neg (by rw [h.1]; exact Bool.false_ne_true)]
  split
  · rename_i heq
    exact absurd (List.cons.inj heq).1 hequals
  · rfl

/-- At the start of a name a class is only read if the name is one. -/
theorem classValue?_name {name : List Char} (hname : ∀ c ∈ name, isNameChar c = true)
    {tail : List Char} (htail : ∀ c ∈ tail.head?, isForeign c = true) :
    classValue? (name ++ tail) =
      if dropLetters? "class".toList name = some [] then assigned? tail else none := by
  rw [classValue?_eq, dropLetters?_append_of_isForeign (List.suffix_refl _) htail]
  cases hdrop : dropLetters? "class".toList name with
  | none => rfl
  | some after =>
      cases after with
      | nil => rfl
      | cons d more =>
          -- The letters end before the name does.
          rcases exists_of_dropLetters? hdrop with ⟨word, hsplit, -⟩
          have hd : d ∈ name := hsplit ▸ List.mem_append_right word List.mem_cons_self
          exact assigned?_cons_of_isNameChar (hname d hd) (more ++ tail)

/-- In a name a class can only be read at its end. -/
theorem readWithin?_name {name : List Char} (hname : ∀ c ∈ name, isNameChar c = true)
    {tail : List Char} (htail : ∀ c ∈ tail.head?, isForeign c = true) (inWord : Bool) :
    readWithin? inWord tail name = if endsInClass inWord name then assigned? tail else none := by
  induction name generalizing inWord with
  | nil => rfl
  | cons c rest ih =>
      have hvalue := classValue?_name hname htail
      have hrest := ih (List.forall_mem_cons.1 hname).2 (isWord c)
      rw [List.cons_append] at hvalue
      rw [readWithin?, endsInClass, hvalue, hrest]
      cases inWord with
      | true => rfl
      | false =>
          by_cases hclass : dropLetters? "class".toList (c :: rest) = some []
          · rw [hclass, if_pos rfl]
            cases assigned? tail with
            | none => rw [ite_self, ite_self]; rfl
            | some value => rfl
          · rw [if_neg hclass, beq_eq_false_iff_ne.2 hclass]
            rfl

/-!
## Written attributes
-/

theorem assigned?_write (v : AttributeValue) (rest : List Char) :
    assigned? (v.write rest) = some v.text := by
  have hbefore := List.all_eq_true.1 v.allBlank_before
  have hbehind := List.all_eq_true.1 v.allBlank_behind
  have hequals : isBlank '=' = false := by decide
  have hquote : isBlank v.quote.char = false := by
    cases v.quote with
    | double => decide
    | single => decide
  have hmark : (v.quote.char = '"' || v.quote.char = '\'') = true := by
    cases v.quote with
    | double => rfl
    | single => rfl
  have hends : (v.text ++ v.quote.char :: rest).contains v.quote.char = true := by
    simp
  have htaken : (v.text ++ v.quote.char :: rest).takeWhile (· ≠ v.quote.char) = v.text := by
    rw [List.takeWhile_append_of_pos, List.takeWhile_cons_of_neg (by simp), List.append_nil]
    intro c hc
    exact decide_eq_true fun heq => v.quote_notMem (heq ▸ hc)
  rw [assigned?, AttributeValue.write, List.dropWhile_append_of_pos hbefore,
    List.dropWhile_cons_of_neg (by rw [hequals]; exact Bool.false_ne_true)]
  simp only [List.dropWhile_append_of_pos hbehind]
  rw [List.dropWhile_cons_of_neg (by rw [hquote]; exact Bool.false_ne_true)]
  simp only [hmark, hends, Bool.and_self, if_true, htaken]

theorem assigned?_gap {gap rest : List Char} (hgap : allBlank gap = true)
    (hrest : ∀ c ∈ rest.head?, isNameChar c = true) : assigned? (gap ++ rest) = none := by
  have hdrop : assigned? (gap ++ rest) = assigned? rest := by
    rw [assigned?, List.dropWhile_append_of_pos (List.all_eq_true.1 hgap)]
    rfl
  rw [hdrop]
  cases rest with
  | nil => rfl
  | cons c rest => exact assigned?_cons_of_isNameChar (hrest c rfl) rest

theorem dropLetters?_of_lowered {word : List Char} (hword : word <:+ "class".toList)
    {name : List Char} (h : lowered name = word) : dropLetters? word name = some [] := by
  induction word generalizing name with
  | nil => rw [List.map_eq_nil_iff.1 h]; rfl
  | cons p word ih =>
      cases name with
      | nil => cases h
      | cons c name =>
          have hletters := List.cons.inj h
          rw [dropLetters?, sameLetter_of_toLower (hword.mem List.mem_cons_self) hletters.1]
          exact ih ((List.suffix_cons p word).trans hword) hletters.2

theorem endsInClass_of_isClass {a : TagAttribute} (h : a.isClass = true) :
    endsInClass false a.name = true := by
  have hdrop := dropLetters?_of_lowered (List.suffix_refl _) (eq_of_beq h)
  cases hname : a.name with
  | nil => exact absurd hname a.name_ne_nil
  | cons c rest =>
      rw [hname] at hdrop
      rw [endsInClass, hdrop]
      rfl

theorem isNameChar_head_writeAttributes (l : List TagAttribute) :
    ∀ c ∈ (writeAttributes l).head?, isNameChar c = true := by
  cases l with
  | nil => intro c hc; cases hc
  | cons a l =>
      have hhead : (writeAttributes (a :: l)).head? = a.name.head? := by
        show (a.write (writeAttributes l)).head? = a.name.head?
        unfold TagAttribute.write
        split
        · exact List.head?_append_of_ne_nil _ a.name_ne_nil
        · exact List.head?_append_of_ne_nil _ a.name_ne_nil
      intro c hc
      rw [hhead] at hc
      exact a.isName c (List.mem_of_mem_head? hc)

theorem isForeign_of_allBlank {s : List Char} (h : allBlank s = true) :
    ∀ c ∈ s, isForeign c = true ∧ isWord c = false := by
  intro c hc
  have hblank := List.all_eq_true.1 h c hc
  exact ⟨isForeign_of_isBlank hblank, isWord_of_isBlank hblank⟩

theorem firstClassValue?_value (v : AttributeValue) {gap : List Char} (hgap : allBlank gap = true)
    (inWord : Bool) (rest : List Char) :
    firstClassValue? inWord (v.write (gap ++ rest)) =
      (readWithin? false (v.quote.char :: (gap ++ rest)) v.text).or
        (firstClassValue? false rest) := by
  have hopening : ∀ c ∈ v.before ++ '=' :: (v.behind ++ [v.quote.char]),
      isForeign c = true ∧ isWord c = false := by
    simp only [List.forall_mem_append, List.forall_mem_cons]
    exact ⟨isForeign_of_allBlank v.allBlank_before, ⟨isForeign_equals, by decide⟩,
      isForeign_of_allBlank v.allBlank_behind, ⟨isForeign_quote v.quote, isWord_quote v.quote⟩,
      List.forall_mem_nil _⟩
  have hclosing : ∀ c ∈ v.quote.char :: gap, isForeign c = true ∧ isWord c = false :=
    List.forall_mem_cons.2
      ⟨⟨isForeign_quote v.quote, isWord_quote v.quote⟩, isForeign_of_allBlank hgap⟩
  have hwrite : v.write (gap ++ rest) =
      (v.before ++ '=' :: (v.behind ++ [v.quote.char])) ++
        (v.text ++ ((v.quote.char :: gap) ++ rest)) := by
    simp [AttributeValue.write]
  rw [hwrite, firstClassValue?_append_of_isForeign (by simp) hopening, firstClassValue?_append,
    firstClassValue?_append_of_isForeign (List.cons_ne_nil _ _) hclosing]
  rfl

theorem isForeign_head_write (v : AttributeValue) (rest : List Char) :
    ∀ c ∈ (v.write rest).head?, isForeign c = true := by
  have hblank := isForeign_of_allBlank v.allBlank_before
  intro c hc
  rw [AttributeValue.write] at hc
  cases hbefore : v.before with
  | nil =>
      rw [hbefore] at hc
      cases hc
      exact isForeign_equals
  | cons b before =>
      rw [hbefore] at hc hblank
      cases hc
      exact (hblank _ List.mem_cons_self).1

theorem firstClassValue?_gap {gap rest : List Char} (hgap : allBlank gap = true)
    (hne : rest ≠ [] -> gap ≠ []) (inWord : Bool) :
    firstClassValue? inWord (gap ++ rest) = firstClassValue? false rest := by
  cases gap with
  | nil =>
      have hnil : rest = [] := not_imp_comm.1 hne fun h => h rfl
      rw [hnil]
      rfl
  | cons b gap =>
      exact firstClassValue?_append_of_isForeign (List.cons_ne_nil b gap)
        (isForeign_of_allBlank hgap) inWord rest

theorem isForeign_head_gap {gap rest : List Char} (hgap : allBlank gap = true)
    (hne : rest ≠ [] -> gap ≠ []) : ∀ c ∈ (gap ++ rest).head?, isForeign c = true := by
  intro c hc
  cases gap with
  | nil =>
      have hnil : rest = [] := not_imp_comm.1 hne fun h => h rfl
      rw [hnil] at hc
      cases hc
  | cons b gap =>
      cases hc
      exact (isForeign_of_allBlank hgap _ List.mem_cons_self).1

/-- An attribute is taken for the class, or the scan goes on behind it. -/
theorem firstClassValue?_attribute (a : TagAttribute) {rest : List Char}
    (hne : rest ≠ [] -> a.gap ≠ []) (hrest : ∀ c ∈ rest.head?, isNameChar c = true) :
    firstClassValue? false (a.write rest) =
      (a.taken? rest).or (firstClassValue? false rest) := by
  rw [TagAttribute.write, TagAttribute.taken?]
  cases a.value? with
  | none =>
      have hforeign := isForeign_head_gap a.allBlank_gap hne
      have hname : readWithin? false (a.gap ++ rest) a.name = none := by
        rw [readWithin?_name a.isName hforeign, assigned?_gap a.allBlank_gap hrest, ite_self]
      show firstClassValue? false (a.name ++ (a.gap ++ rest)) = firstClassValue? false rest
      rw [firstClassValue?_append, hname, firstClassValue?_gap a.allBlank_gap hne]
      rfl
  | some v =>
      have hname := readWithin?_name a.isName (isForeign_head_write v (a.gap ++ rest)) false
      show firstClassValue? false (a.name ++ v.write (a.gap ++ rest)) = _
      rw [firstClassValue?_append, hname, assigned?_write, firstClassValue?_value v a.allBlank_gap]
      cases hclass : endsInClass false a.name with
      | true => rfl
      | false => rfl

/-- What is read in written attributes is what is taken for the class in front of it, and else
the value of the class. -/
theorem firstClassValue?_written {l : List TagAttribute} (hspaced : Spaced l) :
    firstClassValue? false (writeAttributes l) = (mistaken? l).or (declaredValue? l) := by
  induction l with
  | nil => rfl
  | cons a l ih =>
      have hne : writeAttributes l ≠ [] -> a.gap ≠ [] := by
        cases l with
        | nil => intro h; exact absurd rfl h
        | cons b l => intro _; exact (List.isChain_cons_cons.1 hspaced).1
      have hscan := firstClassValue?_attribute a hne (isNameChar_head_writeAttributes l)
      rw [ih hspaced.tail] at hscan
      show firstClassValue? false (a.write (writeAttributes l)) = _
      rw [hscan, mistaken?, declaredValue?.eq_def (a :: l), List.findSome?_cons]
      cases hclass : a.isClass with
      | false => exact Option.or_assoc.symm
      | true =>
          have hname := endsInClass_of_isClass hclass
          rw [TagAttribute.taken?]
          cases a.value? with
          | none => rfl
          | some v =>
              simp only [hname]
              rfl

/-- Where the letters of `class` stand at no place of a value, no class is read in it. -/
theorem readWithin?_of_letterless {text : List Char}
    (h : ∀ s, s <:+ text -> s ≠ [] -> dropLetters? "class".toList s = none) (inWord : Bool)
    {behind : List Char} (hbehind : ∀ c ∈ behind.head?, isForeign c = true) :
    readWithin? inWord behind text = none := by
  induction text generalizing inWord with
  | nil => rfl
  | cons c text ih =>
      have hvalue : classValue? (c :: (text ++ behind)) = none := by
        rw [classValue?_eq, ← List.cons_append,
          dropLetters?_append_of_isForeign (List.suffix_refl _) hbehind,
          h _ (List.suffix_refl _) (List.cons_ne_nil c text)]
        rfl
      have hrest := ih (fun s hs => h s (hs.trans (List.suffix_cons c text))) (isWord c)
      rw [readWithin?, hvalue, ite_self]
      exact hrest

/-- The letters of `class` do not end the name of an attribute, and stand nowhere in its
value. -/
def TagAttribute.IsLetterless (a : TagAttribute) : Prop :=
  endsInClass false a.name = false ∧
    ∀ v ∈ a.value?, ∀ s, s <:+ v.text -> s ≠ [] -> dropLetters? "class".toList s = none

theorem taken?_of_letterless {a : TagAttribute} (h : a.IsLetterless) (rest : List Char) :
    a.taken? rest = none := by
  rw [TagAttribute.taken?]
  cases hvalue : a.value? with
  | none => rfl
  | some v =>
      have hquote : ∀ c ∈ (v.quote.char :: (a.gap ++ rest)).head?, isForeign c = true := by
        intro c hc
        cases hc
        exact isForeign_quote v.quote
      simp only [h.1]
      exact readWithin?_of_letterless (h.2 v hvalue) false hquote

theorem mistaken?_eq_none {l : List TagAttribute}
    (h : ∀ a ∈ l, a.isClass = false -> a.IsLetterless) : mistaken? l = none := by
  induction l with
  | nil => rfl
  | cons a l ih =>
      rw [mistaken?, ih (List.forall_mem_cons.1 h).2]
      cases hclass : a.isClass with
      | true =>
          cases hvalue : a.value? with
          | none => rw [TagAttribute.taken?, hvalue]; rfl
          | some v => rfl
      | false =>
          rw [taken?_of_letterless (h a List.mem_cons_self hclass)]
          rfl

theorem className?_eq (s : List Char) :
    className? s = (firstClassValue? false s).bind firstName? := rfl

/-- The class of a tag is what is taken for its class, and else what its attributes declare. -/
theorem className?_written {l : List TagAttribute} (hspaced : Spaced l) {lead : List Char}
    (hlead : allBlank lead = true) :
    className? (lead ++ writeAttributes l) =
      ((mistaken? l).or (declaredValue? l)).bind firstName? := by
  rw [className?_eq, ← firstClassValue?_written hspaced]
  cases lead with
  | nil => rfl
  | cons b lead =>
      rw [firstClassValue?_append_of_isForeign (List.cons_ne_nil b lead)
        (isForeign_of_allBlank hlead)]

/-- Where no other attribute holds the letters of `class`, the class is read as declared. -/
theorem className?_eq_declared {l : List TagAttribute} (hspaced : Spaced l) {lead : List Char}
    (hlead : allBlank lead = true) (h : ∀ a ∈ l, a.isClass = false -> a.IsLetterless) :
    className? (lead ++ writeAttributes l) = declared? l := by
  rw [className?_written hspaced hlead, mistaken?_eq_none h]
  rfl

/-- The class of a tag is the class that its attributes declare exactly if nothing in front of
it is taken for it, or what is taken names the same container first. -/
theorem className?_eq_declared_iff {l : List TagAttribute} (hspaced : Spaced l)
    {lead : List Char} (hlead : allBlank lead = true) :
    className? (lead ++ writeAttributes l) = declared? l ↔
      ∀ value ∈ mistaken? l, firstName? value = declared? l := by
  rw [className?_written hspaced hlead]
  cases mistaken? l with
  | none =>
      constructor
      · intro _ value hvalue
        cases hvalue
      · intro _
        rfl
  | some value =>
      constructor
      · intro h w hw
        cases hw
        exact h
      · intro h
        exact h value rfl

/-- An attribute with its value in double quotes. -/
def doubleQuoted (name text gap : List Char) (hne : name ≠ [])
    (hname : name.all isNameChar = true) (htext : '"' ∉ text)
    (hgap : allBlank gap = true) : TagAttribute where
  name := name
  value? := some ⟨[], [], .double, text, rfl, rfl, htext⟩
  gap := gap
  name_ne_nil := hne
  isName := List.all_eq_true.1 hname
  allBlank_gap := hgap

/-- The attributes of `id="x" class="wide proof"`. -/
def wideProof : List TagAttribute :=
  [doubleQuoted "id".toList "x".toList " ".toList (by decide) (by decide) (by decide) (by decide),
   doubleQuoted "class".toList "wide proof".toList [] (by decide) (by decide) (by decide)
    (by decide)]

/-- The attributes of `data-class="theory"`. -/
def dataClass : List TagAttribute :=
  [doubleQuoted "data-class".toList "theory".toList [] (by decide) (by decide) (by decide)
    (by decide)]

theorem className?_eq_declared_iff_of_wideProof :
    " id=\"x\" class=\"wide proof\"".toList = " ".toList ++ writeAttributes wideProof ∧
      className? (" ".toList ++ writeAttributes wideProof) = declared? wideProof ∧
        declared? wideProof = some "proof".toList := by
  have hspaced : Spaced wideProof := List.isChain_pair.2 (by decide)
  have hnone : mistaken? wideProof = none := by decide
  refine ⟨by decide, ?_, by decide⟩
  refine (className?_eq_declared_iff hspaced (by decide)).2 ?_
  intro value hvalue
  rw [hnone] at hvalue
  cases hvalue

theorem className?_ne_declared_of_dataClass :
    Spaced dataClass ∧
      " data-class=\"theory\"".toList = " ".toList ++ writeAttributes dataClass ∧
      className? (" ".toList ++ writeAttributes dataClass) = some "theory".toList ∧
      declared? dataClass = none := by
  refine ⟨List.isChain_singleton _, ?_⟩
  decide

end Container
end Folio
