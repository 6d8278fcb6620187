import BookTheme.Proofs.Rehearsal.Record

/-! # Blind computations

A computation is blind if it neither looks at the files nor changes them: put before another tree it does the
same, and leaves that tree as it is. Requests, pauses, events and lines of output are blind, and so is
whatever is made of them.
-/
namespace BookTheme
namespace Rehearsal

variable {α β : Type}

def onTree (r : Rehearsal) (u : Files.Tree) : Rehearsal := { r with tree := u }

@[simp] theorem tree_onTree (r : Rehearsal) (u : Files.Tree) : (r.onTree u).tree = u := rfl

def Blind (x : StateM Rehearsal α) : Prop := ∀ r u, x.run (r.onTree u) = ((x.run r).1,(x.run r).2.onTree u)

theorem Blind.tree_run {x : StateM Rehearsal α} (h : Blind x) (r : Rehearsal) : (x.run r).2.tree = r.tree :=
  congrArg (fun p => p.2.tree) (h r r.tree)

theorem blind_pure (a : α) : Blind (pure a) := fun _ _ => rfl

theorem Blind.bind {x : StateM Rehearsal α} {f : α → StateM Rehearsal β} (hx : Blind x) (hf : ∀ a, Blind (f a)) :
    Blind (x >>= f) := by
  intro r u
  rw [run_bind, run_bind, hx r u]
  exact hf _ _ u

theorem blind_get (source : Source) : Blind (client.get source) := fun _ _ => rfl

theorem blind_pause (delay : Delay) : Blind (client.pause delay) := fun _ _ => rfl

theorem blind_log (event : Log.Event) : Blind (client.log event) := fun _ _ => rfl

theorem blind_print (text : String) : Blind (host.print text) := fun _ _ => rfl

end Rehearsal
end BookTheme
