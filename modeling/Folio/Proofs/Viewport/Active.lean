import Mathlib.Data.List.Chain
import Folio.Proofs.Viewport.Reading
import Folio.Proofs.Viewport.Timers
import Folio.Proofs.Number.Exactness

/-!
# The heading that is being read

In exact numbers the heading that is being read is, after each look at the preview, the last one
of the list that has been reached (`Coordinator.Reads`), in whatever order the list is; further
below on the page it is no earlier one. What is told of the headings are the changes of the one
that is read (`Reading.IsLogged`): an act leaves it as it is, or changes it once and tells it
(`Reading.Advances`).
-/

namespace Folio

open Number

/-- A text, and nothing, are equal to themselves alone. -/
theorem Value.eq_of_same {α : Type} [Scalar α] {v w : Value α}
    (hv : v = .null ∨ exists t, v = .text t) (h : v.same w = true) : v = w := by
  rcases hv with rfl | ⟨t, rfl⟩
  · cases w <;> simp [Value.same, sameNumber, Amount.ofValue?] at h ⊢
  · cases w <;> simp [Value.same, sameNumber, Amount.ofValue?] at h ⊢
    exact h

namespace Viewport

variable {α : Type}

namespace Positions

/-!
## The last entry that has been reached
-/

/-- Whether an entry of a list is the last one that has been reached. -/
structure IsLast (reached : α -> Prop) (ps : Positions α) (i : Nat) (id : Value α) : Prop where
  here : exists offset, ps[i]? = some (id, offset) ∧ reached offset
  behind : forall j p, i < j -> ps[j]? = some p -> ¬ reached p.2

/-- Whether a value is the id of the last entry that has been reached, or null where none has
been. -/
def IsFound (reached : α -> Prop) (ps : Positions α) (id : Value α) : Prop :=
  ((∀ p ∈ ps, ¬ reached p.2) ∧ id = .null) ∨ exists i, IsLast reached ps i id

variable {reached : α -> Prop} {ps : Positions α} {i : Nat} {id : Value α}

theorem isLast_zero {p : Value α × α} (h : reached p.2) (hbehind : ∀ q ∈ ps, ¬ reached q.2) :
    IsLast reached (p :: ps) 0 p.1 where
  here := ⟨p.2, rfl, h⟩
  behind := by
    intro j q hj hq
    cases j with
    | zero => cases hj
    | succ j => exact hbehind q (List.mem_of_getElem? hq)

theorem IsLast.succ (h : IsLast reached ps i id) (p : Value α × α) :
    IsLast reached (p :: ps) (i + 1) id where
  here := h.here
  behind := by
    intro j q hj hq
    cases j with
    | zero => cases hj
    | succ j => exact h.behind j q (Nat.lt_of_succ_lt_succ hj) hq

theorem IsLast.le_of_reached {j : Nat} {p : Value α × α} (h : IsLast reached ps j id)
    (hp : ps[i]? = some p) (hreached : reached p.2) : i ≤ j :=
  Nat.le_of_not_lt fun hlt => h.behind i p hlt hp hreached

theorem IsFound.null_or_text (h : IsFound reached ps id)
    (hps : ∀ p ∈ ps, exists t, p.1 = .text t) : id = .null ∨ exists t, id = .text t := by
  rcases h with ⟨-, hnull⟩ | ⟨i, hlast⟩
  · exact Or.inl hnull
  · rcases hlast.here with ⟨offset, hi, -⟩
    exact Or.inr (hps _ (List.mem_of_getElem? hi))

/-- Along a list the id of the last entry that has been reached takes the place of another. -/
theorem foldl_cases {found : α -> Bool} (h : forall x, found x = true ↔ reached x)
    (ps : Positions α) (before : Value α) :
    let last := ps.foldl (fun last p => if found p.2 then p.1 else last) before
    ((∀ p ∈ ps, ¬ reached p.2) ∧ last = before) ∨ exists i, IsLast reached ps i last := by
  induction ps generalizing before with
  | nil => exact Or.inl ⟨nofun, rfl⟩
  | cons p ps ih =>
      rw [List.foldl_cons]
      rcases ih (if found p.2 then p.1 else before) with ⟨hnone, hlast⟩ | ⟨i, hlast⟩
      · rw [hlast]
        by_cases hp : reached p.2
        · rw [if_pos ((h p.2).2 hp)]
          exact Or.inr ⟨0, isLast_zero hp hnone⟩
        · rw [if_neg (mt (h p.2).1 hp)]
          exact Or.inl ⟨List.forall_mem_cons.2 ⟨hp, hnone⟩, rfl⟩
      · exact Or.inr ⟨i + 1, hlast.succ p⟩

end Positions

namespace Coordinator

variable [Field α] [LinearOrder α]

/-- Whether a heading at a distance has been reached at a position of the pane. -/
def Reaches (c : Coordinator α) (top offset : α) : Prop :=
  c.pageTop + offset * c.zoom ≤ top + c.lookahead

theorem Reaches.mono [IsStrictOrderedRing α] {c : Coordinator α} {top below offset : α}
    (h : c.Reaches top offset) (hle : top ≤ below) : c.Reaches below offset := by
  unfold Reaches at *
  exact h.trans (by gcongr)

/-- Whether the heading that is being read is the one that is found at a position. Equal ids
that are no texts may have different forms. -/
def Reads [Scalar α] (c : Coordinator α) (top : α) (ps : Positions α) : Prop :=
  exists id, ps.IsFound (c.Reaches top) id ∧ (id = c.active ∨ id.same c.active = true) ∧
    ((∀ p ∈ ps, exists t, p.1 = .text t) -> id = c.active)

variable [Scalar α] [IsExact α]

theorem isFound_lastReached (c : Coordinator α) (top : α) (ps : Positions α) :
    ps.IsFound (c.Reaches top) (c.lastReached top ps) := by
  refine Positions.foldl_cases ?_ ps .null
  intro offset
  rw [isReached, IsExact.le_iff, IsExact.add_eq, IsExact.mul_eq, IsExact.add_eq, Reaches]

/-- Further below on the page the last entry that has been reached is no earlier one. -/
theorem exists_isLast_of_le [IsStrictOrderedRing α] {c : Coordinator α} {top below : α}
    {ps : Positions α} {i : Nat} {id : Value α} (h : ps.IsLast (c.Reaches top) i id)
    (hle : top ≤ below) : exists j found, i ≤ j ∧ ps.IsLast (c.Reaches below) j found := by
  rcases h.here with ⟨offset, hi, hreached⟩
  rcases isFound_lastReached c below ps with ⟨hnone, -⟩ | ⟨j, hlast⟩
  · exact absurd (hreached.mono hle) (hnone _ (List.mem_of_getElem? hi))
  · exact ⟨j, _, hlast.le_of_reached hi (hreached.mono hle), hlast⟩

end Coordinator

namespace Reading

variable [Scalar α]

section Reads

variable [Field α] [LinearOrder α]

/-- A heading that is noted is the one that is being read. -/
theorem reads_heed {r : Reading α} {top : α} {ps : Positions α} {id : Value α}
    (h : ps.IsFound (r.coordinator.Reaches top) id) : (r.heed id).coordinator.Reads top ps := by
  unfold heed
  split
  · next hsame =>
      exact ⟨id, h, Or.inr hsame, fun hps => Value.eq_of_same (h.null_or_text hps) hsame⟩
  · rw [coordinator_tell]
    exact ⟨id, h, Or.inl rfl, fun _ => rfl⟩

theorem reads_look [IsExact α] {r : Reading α} {ps : Positions α}
    (h : r.coordinator.headings = .ok ps) (m : Metrics α) :
    (r.look (some m)).coordinator.Reads m.top ps := by
  simp only [look, h]
  apply reads_heed
  rw [coordinator_progress]
  exact r.coordinator.isFound_lastReached m.top ps

end Reads

/-!
## What is told
-/

omit [Scalar α] in
theorem actives_tell_active (r : Reading α) (h : r.listens = true) (id : Value α) :
    (r.tell (.toldActive id)).actives = id :: r.actives := by
  rw [tell, if_pos h]
  rfl

omit [Scalar α] in
@[simp] theorem actives_progress (r : Reading α) (x : α) : (r.progress x).actives = r.actives := by
  unfold progress tell
  split <;> rfl

/-- Whether a reading comes behind another one: the same heading is read and nothing is told of
it, or another one is, and it is told. -/
def Advances (r u : Reading α) : Prop :=
  (u.coordinator.active = r.coordinator.active ∧ u.actives = r.actives) ∨
    (u.coordinator.active.same r.coordinator.active = false ∧
      u.actives = u.coordinator.active :: r.actives)

theorem advances_heed {r : Reading α} (h : r.listens = true) (id : Value α) :
    r.Advances (r.heed id) := by
  unfold heed
  split
  · exact Or.inl ⟨rfl, rfl⟩
  · next hother =>
      refine Or.inr ⟨?_, ?_⟩
      · rw [coordinator_tell]
        exact Bool.eq_false_iff.2 hother
      · rw [coordinator_tell]
        exact actives_tell_active
          { r with coordinator := { r.coordinator with active := id } } h id

theorem advances_look {r : Reading α} (h : r.listens = true) (found : Option (Metrics α)) :
    r.Advances (r.look found) := by
  unfold look
  split
  · exact Or.inl ⟨rfl, rfl⟩
  · next m =>
      split
      · exact Or.inl ⟨by rw [coordinator_progress], actives_progress r _⟩
      · next ps _ =>
          have hlistens : (r.progress m.fraction).listens = true := by
            rw [progress, listens_tell]
            exact h
          have hadvances := advances_heed hlistens (r.coordinator.lastReached m.top ps)
          unfold Advances at hadvances
          rw [actives_progress, coordinator_progress] at hadvances
          exact hadvances

omit [Scalar α] in
/-- The headings that were read, the last one first; none is read at first. -/
def log (r : Reading α) : List (Value α) :=
  r.actives ++ [.null]

/-- Whether what was told of the headings are the changes of the one that is being read. -/
structure IsLogged (r : Reading α) : Prop where
  listens : r.listens = true
  last : r.log.head? = some r.coordinator.active
  changes : r.log.IsChain fun later earlier => later.same earlier = false

theorem IsLogged.of_advances {r u : Reading α} (h : r.IsLogged) (hlistens : u.listens = r.listens)
    (hadvances : r.Advances u) : u.IsLogged := by
  rcases hadvances with ⟨hactive, hactives⟩ | ⟨hother, hactives⟩
  · have hlog : u.log = r.log := by rw [log, hactives, log]
    exact ⟨hlistens.trans h.listens, by rw [hlog, hactive, h.last], by rw [hlog]; exact h.changes⟩
  · have hlog : u.log = u.coordinator.active :: r.log := by
      rw [log, hactives, log, List.cons_append]
    refine ⟨hlistens.trans h.listens, by rw [hlog]; rfl, ?_⟩
    rw [hlog]
    apply h.changes.cons
    intro earlier hearlier
    rw [h.last] at hearlier
    cases hearlier
    exact hother

end Reading

namespace Session

variable [Scalar α]

/-!
## What is seen
-/

theorem shown_zoomTo (s : Session (Bench α) α) (x : α) (side : Side) :
    (s.zoomTo x).shown side = s.shown side := by
  rw [zoomTo, shown_track, shown_applyZoom]
  rfl

/-- Whether the coordinator looks at the preview in an act. It does not if a number that it is
given cannot be read, nor while the panes are left alone, if the preview is moved. -/
def Looks (s : Session (Bench α) α) : Act α -> Prop
  | .movement .source => s.midst.isSome = true
  | .movement .preview => s.coordinator.sync = true
  | .zoom v => exists x : α, v.toNumber = .ok x
  | .headings _ top => exists x : α, top.toNumber = .ok x
  | .zoomIn => True
  | .zoomOut => True
  | .resetZoom => True
  | .track => True
  | _ => False

/-- A movement of the source that the preview reports leaves the preview where it was seen. -/
theorem shown_scrolled_of_midst {s : Session (Bench α) α} (hsound : s.fault = none)
    {m : Metrics α} (h : s.midst = some m) : (s.scrolled .source).shown .preview = some m := by
  have hcalm : (s.observe .source).isSound = true := by
    show s.fault.isNone = true
    rw [hsound]
    rfl
  rcases exists_of_midst h with ⟨hsync, hdriver, driving, following, hdriving, hfollowing, hm⟩
  rw [← hm]
  exact shown_scrolled_of_shown hsync hcalm hdriver hdriving hfollowing .preview

/-- What the coordinator looks at in an act is what the preview shows behind it. -/
theorem sight_eq_shown {s : Session (Bench α) α} {a : Act α} (h : s.Looks a) :
    s.sight a = (s.act a).shown .preview := by
  cases a with
  | movement side =>
      cases side with
      | source =>
          rcases Option.isSome_iff_exists.1 h with ⟨m, hm⟩
          have hcleared : midst { s with fault := none } = some m := hm
          exact hm.trans (shown_scrolled_of_midst rfl hcleared).symm
      | preview =>
          have hsync : s.coordinator.sync = true := h
          rw [sight, if_pos hsync]
          exact (shown_scrolled_self { s with fault := none } .preview).symm
  | zoom v =>
      rcases h with ⟨x, hx⟩
      simp only [sight, Session.act, setZoom, hx]
      exact (shown_zoomTo { s with fault := none } x .preview).symm
  | headings items top =>
      rcases h with ⟨x, hx⟩
      simp only [sight, Session.act, setHeadings, hx, shown_track]
      rfl
  | zoomIn => exact (shown_zoomTo { s with fault := none } _ .preview).symm
  | zoomOut => exact (shown_zoomTo { s with fault := none } _ .preview).symm
  | resetZoom => exact (shown_zoomTo { s with fault := none } _ .preview).symm
  | track => exact (shown_track { s with fault := none } .preview).symm
  | _ => exact h.elim

/-!
## Runs
-/

theorem advances_act {s : Session (Bench α) α} (h : s.around.listens = true) (a : Act α) :
    s.reading.Advances (s.act a).reading := by
  rcases s.reading.set_cases a with ⟨hlistens, htold, hactive⟩
  have hadvances := Reading.advances_look (hlistens.trans h) (s.sight a)
  unfold Reading.Advances Reading.actives at hadvances
  rw [htold, hactive, ← reading_act] at hadvances
  exact hadvances

theorem headings_act (s : Session (Bench α) α) (a : Act α) :
    (s.act a).coordinator.headings = (s.reading.set a).coordinator.headings := by
  rcases coordinator_act s a with ⟨x, active, h⟩
  have hheadings := congrArg Coordinator.headings h
  exact hheadings

/-- What an act looks at is found by the heading that is being read behind it. -/
theorem reads_act [Field α] [LinearOrder α] [IsExact α] {s : Session (Bench α) α} {a : Act α}
    (hlooks : s.Looks a) {m : Metrics α} {ps : Positions α}
    (hm : (s.act a).shown .preview = some m) (hps : (s.act a).coordinator.headings = .ok ps) :
    (s.act a).coordinator.Reads m.top ps := by
  have hact := reading_act s a
  rw [sight_eq_shown hlooks, hm] at hact
  rw [headings_act] at hps
  have hreads := Reading.reads_look hps m
  rw [← hact] at hreads
  exact hreads

theorem isLogged_run {s : Session (Bench α) α} (h : s.reading.IsLogged) (acts : List (Act α)) :
    (s.run acts).reading.IsLogged := by
  induction acts generalizing s with
  | nil => exact h
  | cons a acts ih => exact ih (h.of_advances (listens_act s a) (advances_act h.listens a))

theorem isLogged_opened (lookahead : α) (sync : Bool) {b : Bench α} (hlistens : b.listens = true)
    (hrecord : b.record = []) (t : Timer) : (opened lookahead sync b t).reading.IsLogged := by
  have hlog : (opened lookahead sync b t).reading.log = [.null] := by
    show (b.record.filter Deed.isTold).filterMap Deed.active? ++ [.null] = [.null]
    rw [hrecord]
    rfl
  exact ⟨hlistens, by rw [hlog]; rfl, by rw [hlog]; exact .singleton _⟩

/-- The headings that are told are the changes of the one that is being read, in every run. No
two neighbours among them are equal, the first one is not null, and the last one is being read.
An act tells the heading that is being read behind it if it is another one than before, and
nothing otherwise; if the coordinator looks at the preview in it, that heading is the last one of
the list that has been reached. Further below on the page the last one that has been reached
stands no earlier in the list. -/
theorem actives_told [Field α] [LinearOrder α] [IsStrictOrderedRing α] [IsExact α] (lookahead : α)
    (sync : Bool) (b : Bench α) (t : Timer) (hlistens : b.listens = true) (hrecord : b.record = [])
    (acts : List (Act α)) :
    let s := (opened lookahead sync b t).run acts
    s.reading.log.IsChain (fun later earlier => later.same earlier = false) ∧
    s.reading.log.head? = some s.coordinator.active ∧
    (forall a, s.reading.Advances (s.act a).reading ∧
      forall m ps, s.Looks a -> (s.act a).shown .preview = some m ->
        (s.act a).coordinator.headings = .ok ps -> (s.act a).coordinator.Reads m.top ps) ∧
    forall (ps : Positions α) top below i id, top ≤ below ->
      ps.IsLast (s.coordinator.Reaches top) i id ->
      exists j found, i ≤ j ∧ ps.IsLast (s.coordinator.Reaches below) j found := by
  intro s
  have hlogged := isLogged_run (isLogged_opened lookahead sync hlistens hrecord t) acts
  refine ⟨hlogged.changes, hlogged.last, ?_, ?_⟩
  · intro a
    refine ⟨advances_act hlogged.listens a, ?_⟩
    intro m ps hlooks hm hps
    exact reads_act hlooks hm hps
  · intro ps top below i id hle hlast
    exact Coordinator.exists_isLast_of_le hlast hle

/-- The page is moved from its first heading to the second one, while no source is shown. -/
theorem actives_told_of_two_headings :
    let page : ℚ -> Pane ℚ := fun top => ⟨⟨top, 1000, 400⟩, none, true⟩
    let b : Bench ℚ := ⟨none, some (page 0), .direct false, true, true, []⟩
    let listing : Act ℚ :=
      .headings [.list [.text ['a'], .real 0], .list [.text ['b'], .real 500]] (.real 0)
    let acts : List (Act ℚ) := [listing, .panes none (some (page 450)) true]
    let s := (opened 100 true b (.direct false)).run acts
    let u := s.act (.movement .preview)
    b.listens = true ∧ b.record = [] ∧
      s.reading.log.map Value.text? = [some ['a'], none] ∧
      s.reading.log.IsChain (fun later earlier => later.same earlier = false) ∧
      s.reading.log.head? = some s.coordinator.active ∧
      s.reading.Advances u.reading ∧
      u.reading.log.map Value.text? = [some ['b'], some ['a'], none] ∧
      s.Looks (.movement .preview) ∧ u.shown .preview = some (page 450).metrics ∧
      u.coordinator.Reads 450 [(.text ['a'], 0), (.text ['b'], 500)] := by
  intro page b listing acts s u
  rcases actives_told (100 : ℚ) true b (.direct false) rfl rfl acts with
    ⟨hchanges, hlast, hact, -⟩
  rcases hact (.movement .preview) with ⟨hadvances, hreads⟩
  have hsync : s.Looks (.movement .preview) := (agree_track _).sync
  have hshown : u.shown .preview = some (page 450).metrics := by decide +kernel
  have hlisted : u.coordinator.headings = .ok [(.text ['a'], 0), (.text ['b'], 500)] :=
    (headings_act s (.movement .preview)).trans (agree_track _).headings
  have hfound := hreads _ _ hsync hshown hlisted
  have hbefore : s.reading.log.map Value.text? = [some ['a'], none] := by decide +kernel
  have hbehind : u.reading.log.map Value.text? = [some ['b'], some ['a'], none] := by
    decide +kernel
  exact ⟨rfl, rfl, hbefore, hchanges, hlast, hadvances, hbehind, hsync, hshown, hfound⟩

end Session
end Viewport
end Folio
