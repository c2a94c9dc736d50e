import Folio.Proofs.Viewport.Reading
import Folio.Proofs.Viewport.Timers

/-!
# The reading position and the switch

Two runs are compared in which the same happens beside panes that stand alike, and the switch is
set as one likes (`Parallel`). The coordinator does not look at a preview that is moved while the
panes are left alone, and it looks at everything else whatever the switch is. So the runs give
the same account of the reading position exactly if the switch stands alike whenever the preview
is moved (`accounts_eq_iff`).
-/

namespace Folio
namespace Viewport

open Number

variable {α : Type}

/-!
## What is told of a look
-/

/-- What is known and told of the reading position. -/
structure Account (α : Type) where
  fraction : α
  active : Value α
  /-- The fractions that were told, the last one first. -/
  fractions : List α
  /-- The headings that were told, the last one first. -/
  actives : List (Value α)

namespace Reading

/-- The account of a reading position. -/
def account (r : Reading α) : Account α :=
  ⟨r.coordinator.previewFraction, r.coordinator.active, r.fractions, r.actives⟩

theorem fractions_progress {r : Reading α} (h : r.listens = true) (x : α) :
    (r.progress x).fractions = x :: r.fractions := by
  unfold progress tell
  rw [if_pos h]
  rfl

variable [Scalar α]

@[simp] theorem fractions_heed (r : Reading α) (id : Value α) :
    (r.heed id).fractions = r.fractions := by
  unfold heed tell
  split
  · rfl
  · split <;> rfl

theorem fractions_look {r : Reading α} (h : r.listens = true) (m : Metrics α) :
    (r.look (some m)).fractions = m.fraction :: r.fractions := by
  simp only [look]
  split
  · exact fractions_progress h _
  · rw [fractions_heed, fractions_progress h]

/-- A look is told. -/
theorem account_look_ne {r : Reading α} (h : r.listens = true) (m : Metrics α) :
    (r.look (some m)).account ≠ r.account := by
  intro heq
  have hfractions := congrArg Account.fractions heq
  exact List.cons_ne_self _ _ ((fractions_look h m).symm.trans hfractions)

end Reading

/-!
## Runs side by side
-/

/-- Whether an act may happen to one of two runs alone: the switch is set, the timer does what it
does, or the panes change. -/
def Act.IsAside : Act α -> Prop
  | sync _ => True
  | runOut => True
  | signal => True
  | panes _ _ _ => True
  | _ => False

namespace Session

variable [Scalar α]

/-- Whether the same happens in two runs beside panes that stand alike, apart from the switch,
the timer and the changes of the panes themselves. A preview that reports its movement in the
midst of one of the source does so in both. -/
inductive Parallel :
    Session (Bench α) α -> List (Act α) -> Session (Bench α) α -> List (Act α) -> Prop where
  | done (s t : Session (Bench α) α) : Parallel s [] t []
  | left {s t : Session (Bench α) α} {a : Act α} {acts others : List (Act α)} (ha : a.IsAside)
      (h : Parallel (s.act a) acts t others) : Parallel s (a :: acts) t others
  | right {s t : Session (Bench α) α} {a : Act α} {acts others : List (Act α)} (ha : a.IsAside)
      (h : Parallel s acts (t.act a) others) : Parallel s acts t (a :: others)
  | both {s t : Session (Bench α) α} {a : Act α} {acts others : List (Act α)}
      (hshown : forall side, s.shown side = t.shown side)
      (hmidst : a = .movement .source -> s.midst.isSome = t.midst.isSome)
      (h : Parallel (s.act a) acts (t.act a) others) : Parallel s (a :: acts) t (a :: others)

/-- Whether an act concerns the preview. -/
def concerns (s : Session (Bench α) α) : Act α -> Bool
  | .movement .source => s.midst.isSome
  | .movement .preview => true
  | .zoom _ => true
  | .zoomIn => true
  | .zoomOut => true
  | .resetZoom => true
  | .track => true
  | .headings _ _ => true
  | _ => false

/-- The account behind an act that concerns the preview. -/
def account? (s : Session (Bench α) α) (a : Act α) : Option (Account α) :=
  if s.concerns a then some (s.act a).reading.account else none

/-- The accounts of a run, one behind each act that concerns the preview. -/
def accounts (s : Session (Bench α) α) : List (Act α) -> List (Account α)
  | [] => []
  | a :: acts => (s.account? a).toList ++ (s.act a).accounts acts

/-- How the switch stands when a preview on the screen is moved. -/
def switch? (s : Session (Bench α) α) : Act α -> Option Bool
  | .movement .preview => (s.shown .preview).map fun _ => s.coordinator.sync
  | _ => none

/-- How the switch stands in a run, each time that the preview is moved. -/
def switches (s : Session (Bench α) α) : List (Act α) -> List Bool
  | [] => []
  | a :: acts => (s.switch? a).toList ++ (s.act a).switches acts

/-!
## One act
-/

theorem reading_act_of_isAside (s : Session (Bench α) α) {a : Act α} (ha : a.IsAside) :
    (s.act a).reading = s.reading := by
  rw [reading_act]
  cases a with
  | sync | runOut | signal | panes => rfl
  | _ => exact ha.elim

theorem account?_of_isAside (s : Session (Bench α) α) {a : Act α} (ha : a.IsAside) :
    s.account? a = none ∧ s.switch? a = none := by
  cases a with
  | sync | runOut | signal | panes => exact ⟨rfl, rfl⟩
  | _ => exact ha.elim

section Both

variable {s t : Session (Bench α) α} {a : Act α}

theorem midst_eq (hshown : forall side, s.shown side = t.shown side)
    (hmidst : s.midst.isSome = t.midst.isSome) : s.midst = t.midst := by
  cases hs : s.midst with
  | none =>
      rw [hs] at hmidst
      exact (Option.isSome_eq_false_iff.1 hmidst.symm |> Option.isNone_iff_eq_none.1).symm
  | some m =>
      cases ht : t.midst with
      | none =>
          rw [hs, ht] at hmidst
          cases hmidst
      | some n =>
          rcases exists_of_midst hs with ⟨-, -, driving, following, hdriving, hfollowing, hm⟩
          rcases exists_of_midst ht with ⟨-, -, driving', following', hdriving', hfollowing', hn⟩
          rw [← hshown, hdriving] at hdriving'
          rw [← hshown, hfollowing] at hfollowing'
          cases hdriving'
          cases hfollowing'
          rw [← hm, ← hn]

/-- If the switch stands alike, the coordinator sees the same of panes that stand alike. -/
theorem sight_eq (hshown : forall side, s.shown side = t.shown side)
    (hmidst : a = .movement .source -> s.midst.isSome = t.midst.isSome)
    (hswitch : s.switch? a = t.switch? a) : s.sight a = t.sight a := by
  cases a with
  | movement side =>
      cases side with
      | source => exact midst_eq hshown (hmidst rfl)
      | preview =>
          simp only [sight, switch?, ← hshown] at hswitch ⊢
          cases hm : s.shown .preview with
          | none => rw [ite_self, ite_self]
          | some m =>
              rw [hm] at hswitch
              have hsync : s.coordinator.sync = t.coordinator.sync := Option.some.inj hswitch
              rw [hsync]
  | _ => simp only [sight, hshown]

theorem concerns_eq (hmidst : a = .movement .source -> s.midst.isSome = t.midst.isSome) :
    s.concerns a = t.concerns a := by
  cases a with
  | movement side =>
      cases side with
      | source => exact hmidst rfl
      | preview => rfl
  | _ => rfl

/-- A preview that is moved is not looked at while the panes are left alone, so it is accounted
for if and only if they are not. -/
theorem sync_eq_of_account {m : Metrics α} (hreading : s.reading = t.reading)
    (hlistens : s.around.listens = true) (hs : s.shown .preview = some m)
    (ht : t.shown .preview = some m)
    (h : (s.act (.movement .preview)).reading.account =
      (t.act (.movement .preview)).reading.account) :
    s.coordinator.sync = t.coordinator.sync := by
  have htold := Reading.account_look_ne (r := s.reading) hlistens m
  rw [reading_act, reading_act, ← hreading] at h
  simp only [sight, hs, ht] at h
  cases hsync : s.coordinator.sync with
  | true =>
      cases hother : t.coordinator.sync with
      | true => rfl
      | false =>
          rw [hsync, hother] at h
          exact absurd h htold
  | false =>
      cases hother : t.coordinator.sync with
      | true =>
          rw [hsync, hother] at h
          exact absurd h.symm htold
      | false => rfl

theorem reading_act_eq (hreading : s.reading = t.reading)
    (hshown : forall side, s.shown side = t.shown side)
    (hmidst : a = .movement .source -> s.midst.isSome = t.midst.isSome)
    (hswitch : s.switch? a = t.switch? a) : (s.act a).reading = (t.act a).reading := by
  rw [reading_act, reading_act, hreading, sight_eq hshown hmidst hswitch]

/-- The same account is given behind an act exactly if the switch stands alike. -/
theorem account?_eq_iff (hreading : s.reading = t.reading) (hlistens : s.around.listens = true)
    (hshown : forall side, s.shown side = t.shown side)
    (hmidst : a = .movement .source -> s.midst.isSome = t.midst.isSome) :
    s.account? a = t.account? a ↔ s.switch? a = t.switch? a := by
  constructor
  · intro haccount
    cases a with
    | movement side =>
        cases side with
        | source => rfl
        | preview =>
            have hpreview := hshown .preview
            simp only [switch?, ← hpreview]
            cases hm : s.shown .preview with
            | none => rfl
            | some m =>
                rw [sync_eq_of_account hreading hlistens hm (hpreview ▸ hm)
                  (Option.some.inj haccount)]
    | _ => rfl
  · intro hswitch
    rw [account?, account?, reading_act_eq hreading hshown hmidst hswitch, concerns_eq hmidst]

theorem isSome_account?_eq (hmidst : a = .movement .source -> s.midst.isSome = t.midst.isSome) :
    (s.account? a).isSome = (t.account? a).isSome := by
  rw [account?, account?, concerns_eq hmidst]
  split <;> rfl

omit [Scalar α] in
theorem isSome_switch?_eq (hshown : forall side, s.shown side = t.shown side) :
    (s.switch? a).isSome = (t.switch? a).isSome := by
  unfold switch?
  split
  · rw [Option.isSome_map, Option.isSome_map, hshown]
  · rfl

end Both

/-!
## Whole runs
-/

theorem toList_append_eq_iff {β : Type} {x y : Option β} (h : x.isSome = y.isSome)
    {xs ys : List β} : x.toList ++ xs = y.toList ++ ys ↔ x = y ∧ xs = ys := by
  cases x with
  | none =>
      cases y with
      | none => simp
      | some b => cases h
  | some a =>
      cases y with
      | none => cases h
      | some b => simp

/-- Runs side by side give the same accounts of the reading position exactly if the switch
stands alike whenever the preview is moved. -/
theorem Parallel.accounts_iff_switches {s t : Session (Bench α) α} {acts others : List (Act α)}
    (h : Parallel s acts t others) (hreading : s.reading = t.reading)
    (hlistens : s.around.listens = true) :
    s.accounts acts = t.accounts others ↔ s.switches acts = t.switches others := by
  induction h with
  | done s t => exact ⟨fun _ => rfl, fun _ => rfl⟩
  | @left s t a acts others ha h ih =>
      rcases account?_of_isAside s ha with ⟨haccount, hswitch⟩
      rw [accounts, switches, haccount, hswitch]
      exact ih ((reading_act_of_isAside s ha).trans hreading) ((listens_act s a).trans hlistens)
  | @right s t a acts others ha h ih =>
      rcases account?_of_isAside t ha with ⟨haccount, hswitch⟩
      rw [accounts, switches, haccount, hswitch]
      exact ih (hreading.trans (reading_act_of_isAside t ha).symm) hlistens
  | @both s t a acts others hshown hmidst h ih =>
      -- The runs go on alike only if the switch stands alike in this act; if it does not, the
      -- accounts differ here already, and the induction hypothesis is not needed.
      have hlater : s.switch? a = t.switch? a ->
          ((s.act a).accounts acts = (t.act a).accounts others ↔
            (s.act a).switches acts = (t.act a).switches others) :=
        fun hswitch => ih (reading_act_eq hreading hshown hmidst hswitch)
          ((listens_act s a).trans hlistens)
      rw [accounts, accounts, switches, switches,
        toList_append_eq_iff (isSome_account?_eq hmidst),
        toList_append_eq_iff (isSome_switch?_eq hshown),
        account?_eq_iff hreading hlistens hshown hmidst]
      exact and_congr_right hlater

/-- The reading position and the switch. Two runs from the start, in which the same happens
beside panes that stand alike, give the same account of the reading position (the fraction, the
heading that is being read, and what was told of both) behind every act that concerns the
preview, exactly if the switch stands alike whenever a preview on the screen is moved. It does
not matter how it stands otherwise, nor when it is set. -/
theorem accounts_eq_iff (lookahead : α) (sync other : Bool) (b : Bench α) (t : Timer)
    (hlistens : b.listens = true) {acts others : List (Act α)}
    (h : Parallel (opened lookahead sync b t) acts (opened lookahead other b t) others) :
    (opened lookahead sync b t).accounts acts = (opened lookahead other b t).accounts others ↔
      (opened lookahead sync b t).switches acts = (opened lookahead other b t).switches others :=
  h.accounts_iff_switches rfl hlistens

/-- The preview is moved in two runs, and in one of them the panes are left alone behind this. -/
theorem accounts_eq_iff_of_later_switch :
    let b : Bench Float :=
      ⟨some ⟨⟨0, 3, 1⟩, none, true⟩, some ⟨⟨1, 3, 1⟩, none, true⟩, .direct false, false, true, []⟩
    let s := opened 100 true b (.direct false)
    let acts : List (Act Float) := [.movement .preview, .sync false, .track]
    let others : List (Act Float) := [.movement .preview, .track]
    b.listens = true ∧ Parallel s acts s others ∧ s.switches acts = s.switches others ∧
      s.accounts acts = s.accounts others := by
  intro b s acts others
  have hmoved : forall side, ((s.act (.movement .preview)).act (.sync false)).shown side =
      (s.act (.movement .preview)).shown side := fun _ => rfl
  have hparallel : Parallel s acts s others :=
    .both (fun _ => rfl) nofun (.left trivial (.both hmoved nofun (.done _ _)))
  have hswitches : s.switches acts = s.switches others := by decide
  exact ⟨rfl, hparallel, hswitches,
    (accounts_eq_iff 100 true true b (.direct false) rfl hparallel).2 hswitches⟩

/-- The preview stands at half of its way and is moved there in two runs. In one of them the
panes are left alone, and its reading position is lost. -/
theorem accounts_ne_of_earlier_switch :
    let b : Bench Float :=
      ⟨some ⟨⟨0, 3, 1⟩, none, true⟩, some ⟨⟨1, 3, 1⟩, none, true⟩, .direct false, false, true, []⟩
    let s := opened 100 true b (.direct false)
    Parallel s [.movement .preview] s [.sync false, .movement .preview] ∧
      (s.accounts [.movement .preview]).map Account.fraction = [0.5] ∧
      (s.accounts [.sync false, .movement .preview]).map Account.fraction = [0] ∧
      s.accounts [.movement .preview] ≠ s.accounts [.sync false, .movement .preview] := by
  intro b s
  have hfirst : (s.accounts [.movement .preview]).map Account.fraction = [0.5] := by
    decide +kernel
  have hsecond : (s.accounts [.sync false, .movement .preview]).map Account.fraction = [0] := by
    decide +kernel
  refine ⟨.right trivial (.both (fun _ => rfl) nofun (.done _ _)), hfirst, hsecond, ?_⟩
  intro heq
  rw [heq, hsecond] at hfirst
  exact absurd hfirst (by decide)

end Session
end Viewport
end Folio
