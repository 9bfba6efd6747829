import Reverb.Chamber

/-!
# Proofs/Action — runs of a chamber

A chamber can be sent a sound, be given a wall, or be left alone for a tick.  `Chamber.run` does
some such actions one after the other, in any order and with any arguments, and `Chamber.after` does
them from an empty chamber.  A run hands out one sound id for each sound that it sends
(`nextSoundId_run_le`).
-/

namespace Reverb

/-- What can be done with a chamber. -/
inductive Action where
  /-- Send a sound. -/
  | send (direction intensity distance : Nat)
  /-- Place a structural wall. -/
  | place (direction distance : Nat)
  /-- Let a tick pass. -/
  | tick
  deriving DecidableEq

namespace Action

/-- The action sends a sound, or tries to. -/
def isSend : Action → Bool
  | send .. => true
  | _ => false

/-- The number of sends among some actions. -/
def sendCount (actions : List Action) : Nat := actions.countP isSend

/-- The number of ticks among some actions. -/
def tickCount (actions : List Action) : Nat := actions.count tick

@[simp] theorem tickCount_nil : tickCount [] = 0 := rfl

@[simp] theorem tickCount_append (first second : List Action) :
    tickCount (first ++ second) = tickCount first + tickCount second := List.count_append

@[simp] theorem tickCount_send_cons (direction intensity distance : Nat) (rest : List Action) :
    tickCount (send direction intensity distance :: rest) = tickCount rest := by
  simp [tickCount]

@[simp] theorem tickCount_place_cons (direction distance : Nat) (rest : List Action) :
    tickCount (place direction distance :: rest) = tickCount rest := by
  simp [tickCount]

@[simp] theorem tickCount_tick_cons (rest : List Action) :
    tickCount (tick :: rest) = tickCount rest + 1 := by
  simp [tickCount]

theorem tickCount_append_singleton {action : Action} (h : action ≠ tick) (actions : List Action) :
    tickCount (actions ++ [action]) = tickCount actions := by
  rw [tickCount_append, tickCount, tickCount, List.count_singleton, if_neg (by simpa using h),
    Nat.add_zero]

@[simp] theorem sendCount_nil : sendCount [] = 0 := rfl

@[simp] theorem sendCount_append (first second : List Action) :
    sendCount (first ++ second) = sendCount first + sendCount second := List.countP_append

@[simp] theorem sendCount_cons (action : Action) (rest : List Action) :
    sendCount (action :: rest) = sendCount rest + if action.isSend then 1 else 0 :=
  List.countP_cons

theorem sendCount_part_le {part actions : List Action} (h : part <+: actions) :
    sendCount part ≤ sendCount actions := h.sublist.countP_le

end Action

namespace Chamber

open Reverb.Action

/-- The chamber after one action. -/
def act (chamber : Chamber) : Action → Chamber
  | .send direction intensity distance => (chamber.send direction intensity distance).2
  | .place direction distance => (chamber.placeWall direction distance).2
  | .tick => chamber.tick

/-- The chamber after some actions. -/
def run (chamber : Chamber) (actions : List Action) : Chamber := actions.foldl act chamber

/-- **The chamber that some actions lead to,** from an empty one. -/
def after (actions : List Action) : Chamber := run {} actions

@[simp] theorem run_nil (chamber : Chamber) : chamber.run [] = chamber := rfl

@[simp] theorem run_cons (chamber : Chamber) (action : Action) (rest : List Action) :
    chamber.run (action :: rest) = (chamber.act action).run rest := rfl

theorem run_append (chamber : Chamber) (first second : List Action) :
    chamber.run (first ++ second) = (chamber.run first).run second := List.foldl_append

/-- Only a tick changes the sound sum. -/
theorem sum_act {action : Action} (h : action ≠ .tick) (chamber : Chamber) :
    (chamber.act action).sum = chamber.sum := by
  cases action with
  | send direction intensity distance =>
    rw [act, send]
    split <;> rfl
  | place direction distance => rfl
  | tick => exact absurd rfl h

/-- An action hands out at most one sound id. -/
theorem nextSoundId_act_le (chamber : Chamber) (action : Action) :
    (chamber.act action).nextSoundId ≤ chamber.nextSoundId + if action.isSend then 1 else 0 := by
  cases action with
  | send direction intensity distance =>
    rw [act, send]
    split <;> simp [isSend]
  | place direction distance => exact Nat.le_add_right _ _
  | tick => exact Nat.le_add_right _ _

/-- **A run hands out at most one sound id for each send.** -/
theorem nextSoundId_run_le (chamber : Chamber) (actions : List Action) :
    (chamber.run actions).nextSoundId ≤ chamber.nextSoundId + sendCount actions := by
  induction actions generalizing chamber with
  | nil => exact Nat.le_refl _
  | cons action rest ih =>
    have hact := chamber.nextSoundId_act_le action
    have hrest := ih (chamber.act action)
    rw [run_cons, sendCount_cons]
    omega

theorem nextSoundId_after_le (actions : List Action) :
    (after actions).nextSoundId ≤ 1 + sendCount actions :=
  nextSoundId_run_le {} actions

end Chamber

end Reverb
