import LineTerminal.Act
import Mathlib.Order.Defs.Unbundled

/-!
# Carrying out acts

How the parts of an act are carried out.  An act in sequence sees the state that the first one
leaves, and is left out when the first one ends in a fault.  So whatever relates the states before
and after each part, without regard to faults, relates the states before and after the whole.
-/

namespace LineTerminal
namespace Act
variable {σ α β : Type}

/-- The state that an act leaves. -/
def after (act : Act σ α) (s : σ) : σ := (act.runIn s).2

@[simp] theorem runIn_pure (a : α) (s : σ) : (pure a : Act σ α).runIn s = (.ok a, s) := rfl

@[simp] theorem runIn_throw (f : Fault) (s : σ) :
    (throw f : Act σ α).runIn s = (.error f, s) := rfl

@[simp] theorem runIn_get (s : σ) : (get : Act σ σ).runIn s = (.ok s, s) := rfl

@[simp] theorem runIn_attempt (act : Act σ α) (s : σ) :
    act.attempt.runIn s = (.ok (act.runIn s).1, act.after s) := rfl

/-- An act followed by another. -/
theorem runIn_bind
    (act : Act σ α)
    (rest : α → Act σ β)
    (s : σ) :
    (act >>= rest).runIn s =
      match act.runIn s with
      | (.ok a, t) => (rest a).runIn t
      | (.error f, t) => (.error f, t) := by
  unfold runIn ExceptT.run StateT.run
  simp only [bind, ExceptT.bind, ExceptT.mk, StateT.bind, ExceptT.bindCont]
  cases act s with
  | mk outcome t => cases outcome <;> rfl

/-- The second of two acts goes on where the first one succeeds. -/
theorem runIn_bind_ok
    {act : Act σ α}
    {s t : σ}
    {a : α}
    (rest : α → Act σ β)
    (done : act.runIn s = (.ok a, t)) :
    (act >>= rest).runIn s = (rest a).runIn t := by
  rw [runIn_bind, done]

/-- An act whose value is replaced. -/
theorem runIn_bind_pure (act : Act σ α) (b : β) (s : σ) :
    (act >>= fun _ => pure b).runIn s = ((act.runIn s).1.map fun _ => b, (act.runIn s).2) := by
  rw [runIn_bind]
  cases act.runIn s with
  | mk outcome t => cases outcome <;> rfl

/-- An act whose value is not needed. -/
theorem runIn_discard (act : Act σ α) (s : σ) :
    (discard act).runIn s = ((act.runIn s).1.map fun _ => ⟨⟩, (act.runIn s).2) := by
  change ((fun _ => PUnit.unit) <$> act).runIn s = _
  rw [← bind_pure_comp]
  exact runIn_bind_pure act _ s

theorem runIn_get_bind (rest : σ → Act σ β) (s : σ) :
    (get >>= rest).runIn s = (rest s).runIn s := rfl

@[simp] theorem after_attempt (act : Act σ α) (s : σ) : act.attempt.after s = act.after s := rfl

@[simp] theorem after_get_bind (rest : σ → Act σ β) (s : σ) :
    (get >>= rest).after s = (rest s).after s := rfl

@[simp] theorem after_set_bind (t : σ) (rest : PUnit → Act σ β) (s : σ) :
    (set t >>= rest).after s = (rest ⟨⟩).after t := rfl

@[simp] theorem after_modify_bind (f : σ → σ) (rest : PUnit → Act σ β) (s : σ) :
    (modify f >>= rest).after s = (rest ⟨⟩).after (f s) := rfl

/-- The second of two acts starts in the state that the first one leaves. -/
theorem after_bind_ok
    {act : Act σ α}
    {s t : σ}
    {a : α}
    (rest : α → Act σ β)
    (done : act.runIn s = (.ok a, t)) :
    (act >>= rest).after s = (rest a).after t :=
  congrArg Prod.snd (runIn_bind_ok rest done)

/-- The second of two acts is left out when the first one ends in a fault. -/
theorem after_bind_error
    {act : Act σ α}
    {s t : σ}
    {f : Fault}
    (rest : α → Act σ β)
    (failed : act.runIn s = (.error f, t)) :
    (act >>= rest).after s = t := by
  unfold after
  rw [runIn_bind, failed]

/-- An act that keeps the state that another one leaves may be left out after it. -/
theorem after_bind_of_after_eq
    {act : Act σ α}
    {rest : α → Act σ β}
    {s : σ}
    (same : ∀ a, (rest a).after (act.after s) = act.after s) :
    (act >>= rest).after s = act.after s := by
  unfold after at same ⊢
  rw [runIn_bind]
  cases done : act.runIn s with
  | mk outcome t =>
      rw [done] at same
      cases outcome with
      | ok a => exact same a
      | error f => rfl

/-- Acts for the items of a list that only yield values yield the list of them. -/
theorem runIn_mapM_of_ok
    {act : α → Act σ β}
    {f : α → β}
    (each : ∀ a s, (act a).runIn s = (.ok (f a), s))
    (items : List α)
    (s : σ) :
    (items.mapM act).runIn s = (.ok (items.map f), s) := by
  induction items with
  | nil => rfl
  | cons a rest ih =>
      rw [List.mapM_cons, runIn_bind, each]
      dsimp only
      rw [runIn_bind, ih]
      rfl

/-- A relation holds between the states before and after an act. -/
def Follows (R : σ → σ → Prop) (act : Act σ α) : Prop := ∀ s, R s (act.after s)

namespace Follows
variable {R : σ → σ → Prop}

/-- An act that keeps the state follows every reflexive relation. -/
theorem of_after_eq [Std.Refl R] {act : Act σ α} (same : ∀ s, act.after s = s) :
    act.Follows R := by
  intro s
  rw [same s]
  exact refl_of R s

theorem pure [Std.Refl R] (a : α) : (Pure.pure a : Act σ α).Follows R :=
  of_after_eq fun _ => rfl

theorem throw [Std.Refl R] (f : Fault) : (MonadExcept.throw f : Act σ α).Follows R :=
  of_after_eq fun _ => rfl

theorem get [Std.Refl R] : (MonadState.get : Act σ σ).Follows R :=
  of_after_eq fun _ => rfl

theorem orFault [Std.Refl R] (f : Fault) (o : Option α) :
    (Act.orFault f o : Act σ α).Follows R := by
  cases o with
  | none => exact throw f
  | some a => exact pure a

theorem ite
    {c : Prop}
    [Decidable c]
    {yes no : Act σ α}
    (first : yes.Follows R)
    (second : no.Follows R) :
    (if c then yes else no).Follows R := by
  split
  · exact first
  · exact second

theorem attempt {act : Act σ α} (follows : act.Follows R) : act.attempt.Follows R :=
  follows

/-- Acts in sequence follow a transitive relation when each of them does. -/
theorem bind
    [IsTrans σ R]
    {act : Act σ α}
    {rest : α → Act σ β}
    (first : act.Follows R)
    (second : ∀ a, (rest a).Follows R) :
    (act >>= rest).Follows R := by
  intro s
  have reached := first s
  unfold after at reached ⊢
  rw [runIn_bind]
  cases h : act.runIn s with
  | mk outcome t =>
      rw [h] at reached
      cases outcome with
      | ok a => exact trans_of R reached (second a t)
      | error f => exact reached

theorem map
    [Std.Refl R]
    [IsTrans σ R]
    {act : Act σ α}
    (f : α → β)
    (follows : act.Follows R) :
    (f <$> act).Follows R := by
  rw [← bind_pure_comp]
  exact bind follows fun a => pure _

/-- Acts for the items of a list follow a relation when each of them does. -/
theorem mapM
    [Std.Refl R]
    [IsTrans σ R]
    {act : α → Act σ β}
    (each : ∀ a, (act a).Follows R)
    (items : List α) :
    (items.mapM act).Follows R := by
  induction items with
  | nil => exact pure _
  | cons a rest ih =>
      rw [List.mapM_cons]
      exact bind (each a) fun b => bind ih fun bs => pure _

end Follows

/-- An act does the same in the image of a state, and leaves the image of what it would leave. -/
def Commutes (f : σ → σ) (act : Act σ α) : Prop :=
  ∀ s, act.runIn (f s) = ((act.runIn s).1, f (act.after s))

namespace Commutes
variable {f : σ → σ}

theorem pure (a : α) : (Pure.pure a : Act σ α).Commutes f := fun _ => rfl

theorem throw (e : Fault) : (MonadExcept.throw e : Act σ α).Commutes f := fun _ => rfl

theorem orFault (e : Fault) (o : Option α) : (Act.orFault e o : Act σ α).Commutes f := by
  cases o with
  | none => exact throw e
  | some a => exact pure a

theorem ite
    {c : Prop}
    [Decidable c]
    {yes no : Act σ α}
    (first : yes.Commutes f)
    (second : no.Commutes f) :
    (if c then yes else no).Commutes f := by
  split
  · exact first
  · exact second

theorem attempt {act : Act σ α} (commutes : act.Commutes f) : act.attempt.Commutes f := by
  intro s
  rw [runIn_attempt, runIn_attempt, after_attempt, after, commutes s]

theorem bind
    {act : Act σ α}
    {rest : α → Act σ β}
    (first : act.Commutes f)
    (second : ∀ a, (rest a).Commutes f) :
    (act >>= rest).Commutes f := by
  intro s
  have reached := first s
  unfold after at reached ⊢
  rw [runIn_bind, runIn_bind, reached]
  cases act.runIn s with
  | mk outcome t =>
      cases outcome with
      | ok a => exact second a t
      | error e => rfl

end Commutes
end Act
end LineTerminal
