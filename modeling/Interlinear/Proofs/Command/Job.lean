import Interlinear.Command.Job

set_option autoImplicit false

/-! # Results of jobs

A job does not read its messages. So its result is that of the same computation without them, and it
is found by taking the job apart in the way it is made (`Job.Yields.bind`). -/

namespace Interlinear.Command.Job

variable {α β : Type}

/-- Whatever messages there were before, the job has this result. -/
def Yields (j : Job α) (x : Except Error α) : Prop := ∀ ms, (j.run.run ms).1 = x

theorem Yields.finish {j : Job α} {x : Except Error α} (h : j.Yields x) : j.finish.1 = x := h []

/-! ## Single steps -/

theorem yields_pure (a : α) : Yields (pure a) (.ok a) := fun _ => rfl

theorem yields_throw (e : Error) : Yields (throw e : Job α) (.error e) := fun _ => rfl

theorem yields_lift (x : Except Error α) : Yields (x : Job α) x := by
  intro ms
  cases x with
  | error e => rfl
  | ok a => rfl

theorem yields_tell (m : Message) : (tell m).Yields (.ok ()) := fun _ => rfl

/-! ## Steps one after the other -/

theorem Yields.bind {j : Job α} {x : Except Error α} (hj : j.Yields x) {f : α → Job β}
    {y : α → Except Error β} (hf : ∀ a, (f a).Yields (y a)) : Yields (j >>= f) (x >>= y) := by
  -- The second job goes on with the messages that the first one leaves, which are not known.
  intro ms
  have hresult := hj ms
  show (ExceptT.run (j >>= f) |>.run ms).1 = _
  rw [ExceptT.run_bind, StateT.run_bind]
  cases hrun : j.run.run ms with
  | mk result after =>
      rw [hrun] at hresult
      obtain rfl : result = x := hresult
      cases result with
      | error e => rfl
      | ok a => exact hf a after

/-- A step that has nothing to tell but messages does not matter. -/
theorem Yields.after {j : Job Unit} (hj : j.Yields (.ok ())) {k : Job α} {x : Except Error α}
    (hk : k.Yields x) : Yields (j >>= fun _ => k) x := hj.bind fun _ => hk

theorem yields_forM {γ : Type} {f : γ → Job Unit} (hf : ∀ c, (f c).Yields (.ok ())) (l : List γ) :
    Yields (l.forM f) (.ok ()) := by
  induction l with
  | nil => exact yields_pure ()
  | cons c l ih => exact (hf c).after ih

theorem yields_warn (ws : List Warning) : (warn ws).Yields (.ok ()) :=
  yields_forM (fun _ => yields_tell _) ws

theorem yields_foldlM {γ : Type} {f : β → γ → Job β} {g : β → γ → Except Error β}
    (h : ∀ b c, (f b c).Yields (g b c)) (l : List γ) (b : β) :
    Yields (l.foldlM f b) (l.foldlM g b) := by
  induction l generalizing b with
  | nil => exact yields_pure b
  | cons c l ih =>
      rw [List.foldlM_cons, List.foldlM_cons]
      exact (h b c).bind fun b' => ih b'

theorem yields_mapM {γ : Type} {f : γ → Job β} {g : γ → Except Error β}
    (h : ∀ c, (f c).Yields (g c)) (l : List γ) : Yields (l.mapM f) (l.mapM g) := by
  induction l with
  | nil => exact yields_pure []
  | cons c l ih =>
      rw [List.mapM_cons, List.mapM_cons]
      exact (h c).bind fun b => ih.bind fun bs => yields_pure (b :: bs)

end Interlinear.Command.Job
