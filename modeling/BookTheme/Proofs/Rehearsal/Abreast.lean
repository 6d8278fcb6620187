import BookTheme.Proofs.Rehearsal.Record
import Mathlib.Data.List.Forall2

/-! # Rehearsals abreast

Two rehearsals match if they have the same tree, if the answers that are still to come differ in nothing but the
addresses that they hold, and if what has happened differs in nothing but what depends on such an address: the
revision that is logged and printed, and the length of a body. Computations keep abreast if, started on
rehearsals that match, they come to related results and leave rehearsals that match.
-/
namespace BookTheme
open Contents

/-- An envelope without its address. -/
def Contents.Envelope.unaddressed (e : Envelope) : Envelope := { e with gitUrl := [] }

/-- Bodies from which the same is read, but for the address. -/
def Contents.Envelope.SameButAddress (body body' : Bytes) : Prop :=
  (Envelope.parse body).map unaddressed = (Envelope.parse body').map unaddressed

/-- The same outcome, but for the address in an answer. -/
inductive Contents.Outcome.Alike : Outcome → Outcome → Prop
  | same (outcome : Outcome) : Alike outcome outcome
  | answers {status : Nat} {body body' : Bytes} (hs : isAnswer status = true)
      (hb : Envelope.SameButAddress body body') : Alike (.reply status body) (.reply status body')

/-- The same happening, but for the length of the body of an answer or for the revision. -/
inductive Happening.Alike : Happening → Happening → Prop
  | same (happening : Happening) : Alike happening happening
  | answered (attempt status bytes bytes' : Nat) :
      Alike (.logged (.answered attempt status bytes)) (.logged (.answered attempt status bytes'))
  | fetched (attempts : Nat) (revision revision' : Text) :
      Alike (.logged (.fetched attempts revision)) (.logged (.fetched attempts revision'))
  | printed (revision revision' : Text) :
      Alike (.printed ("Source revision: " ++ String.ofList revision ++ "\n"))
        (.printed ("Source revision: " ++ String.ofList revision' ++ "\n"))

/-- Calls are never merely alike. -/
theorem filter_isCall_of_alike {hs hs' : List Happening} (h : List.Forall₂ Happening.Alike hs hs') :
    hs.filter (·.isCall) = hs'.filter (·.isCall) := by
  induction h with
  | nil => rfl
  | cons ha _ ih => cases ha <;> simp [List.filter_cons, ih]

/-- Results that are both errors or both values, and related as such. -/
inductive Both {ε ε' α α' : Type} (E : ε → ε' → Prop) (R : α → α' → Prop) : Except ε α → Except ε' α' → Prop
  | error {e : ε} {e' : ε'} (h : E e e') : Both E R (.error e) (.error e')
  | ok {a : α} {a' : α'} (h : R a a') : Both E R (.ok a) (.ok a')

theorem Both.bind {ε ε' α α' β β' : Type} {E : ε → ε' → Prop} {R : α → α' → Prop} {S : β → β' → Prop} {x : Except ε α}
    {x' : Except ε' α'} {f : α → Except ε β} {f' : α' → Except ε' β'} (h : Both E R x x')
    (hf : ∀ a a', R a a' → Both E S (f a) (f' a')) : Both E S (x.bind f) (x'.bind f') := by
  cases h with
  | error he => exact .error he
  | ok ha => exact hf _ _ ha

namespace Rehearsal

structure Matches (r r' : Rehearsal) : Prop where
  tree : r.tree = r'.tree
  outcome (n : Nat) (source : Source) : (r.outcome n source).Alike (r'.outcome n source)
  requests : r.requests = r'.requests
  history : List.Forall₂ Happening.Alike r.history r'.history

variable {r r' : Rehearsal}

theorem matches_of (tree : Files.Tree) {script script' : Nat → Source → Outcome}
    (h : ∀ n source, (script n source).Alike (script' n source)) : Matches (of tree script) (of tree script') :=
  ⟨rfl,h,rfl,.nil⟩

theorem Matches.after (h : Matches r r') (n : Nat) {happening happening' : Happening}
    (ha : happening.Alike happening') : Matches (r.after n [happening]) (r'.after n [happening']) where
  tree := h.tree
  outcome := h.outcome
  requests := congrArg (· + n) h.requests
  history := by
    rw [history_after, history_after]
    exact List.rel_append h.history (.cons ha .nil)

theorem Matches.withTree (h : Matches r r') (u : Files.Tree) : Matches { r with tree := u } { r' with tree := u } :=
  ⟨rfl,h.outcome,h.requests,h.history⟩

/-! ## Computations -/

variable {α α' β β' : Type} {R : α → α' → Prop} {S : β → β' → Prop}

def Abreast (R : α → α' → Prop) (x : StateM Rehearsal α) (y : StateM Rehearsal α') : Prop :=
  ∀ r r', Matches r r' → R (x.run r).1 (y.run r').1 ∧ Matches (x.run r).2 (y.run r').2

theorem Abreast.pure {a : α} {a' : α'} (h : R a a') : Abreast R (pure a) (pure a') := fun _ _ hm => ⟨h,hm⟩

theorem Abreast.bind {x : StateM Rehearsal α} {y : StateM Rehearsal α'} {f : α → StateM Rehearsal β}
    {g : α' → StateM Rehearsal β'} (hx : Abreast R x y) (hf : ∀ a a', R a a' → Abreast S (f a) (g a')) :
    Abreast S (x >>= f) (y >>= g) := by
  intro r r' h
  obtain ⟨hr,hm⟩ := hx r r' h
  exact hf _ _ hr _ _ hm

/-- A computation that comes to the same on rehearsals that match. -/
def Steady (x : StateM Rehearsal α) : Prop := Abreast Eq x x

theorem Steady.bind {x : StateM Rehearsal α} {f : α → StateM Rehearsal β} {g : α → StateM Rehearsal β'} (hx : Steady x)
    (hf : ∀ a, Abreast S (f a) (g a)) : Abreast S (x >>= f) (x >>= g) := by
  refine Abreast.bind hx ?_
  rintro a _ rfl
  exact hf a

theorem steady_pure (a : α) : Steady (pure a) := Abreast.pure rfl

theorem abreast_get (source : Source) : Abreast Outcome.Alike (client.get source) (client.get source) := by
  intro r r' h
  rw [run_get, run_get, h.requests]
  exact ⟨h.outcome _ _,h.after 1 (.same _)⟩

theorem abreast_log {event event' : Log.Event} (he : (Happening.logged event).Alike (.logged event')) :
    Abreast Eq (client.log event) (client.log event') := fun _ _ h => ⟨rfl,h.after 0 he⟩

theorem abreast_print {text text' : String} (ht : (Happening.printed text).Alike (.printed text')) :
    Abreast Eq (host.print text) (host.print text') := fun _ _ h => ⟨rfl,h.after 0 ht⟩

theorem steady_pause (delay : Delay) : Steady (client.pause delay) := fun _ _ h => ⟨rfl,h.after 0 (.same _)⟩

theorem steady_log (event : Log.Event) : Steady (client.log event) := abreast_log (.same _)

theorem steady_print (text : String) : Steady (host.print text) := abreast_print (.same _)

theorem steady_read (path : Text) : Steady (disk.read path) := by
  intro r r' h
  rw [run_read, run_read, h.tree]
  exact ⟨rfl,h⟩

theorem steady_isDir (path : Text) : Steady (disk.isDir path) := by
  intro r r' h
  rw [run_isDir, run_isDir, h.tree]
  exact ⟨rfl,h⟩

theorem steady_attempt (change : Files.Tree → Except Files.OsError Files.Tree) : Steady (attempt change) := by
  intro r r' h
  rw [run_attempt, run_attempt, h.tree]
  cases change r'.tree with
  | error e => exact ⟨rfl,h⟩
  | ok u => exact ⟨rfl,h.withTree u⟩

/-! ## Files -/

theorem steady_unlessThere (path : Text) (e : Files.OsError) : Steady (do
    if ← disk.isDir path then return .ok () else return .error e : StateM Rehearsal (Except Files.OsError Unit)) := by
  apply (steady_isDir path).bind
  intro there
  cases there <;> exact steady_pure _

theorem steady_makeDirUnlessThere (path : Text) : Steady (disk.makeDirUnlessThere path) := by
  apply (steady_attempt (·.makeDir? path)).bind
  intro result
  cases result with
  | ok _ => exact steady_pure _
  | error e => exact steady_unlessThere path e

theorem steady_makeDirs (paths : List Text) : Steady (disk.makeDirs paths) := by
  induction paths with
  | nil => exact steady_pure _
  | cons path above ih =>
    apply (steady_attempt (·.makeDir? path)).bind
    intro result
    rcases result with e | _
    · cases e with
      | notFound =>
        apply ih.bind
        intro result
        cases result with
        | ok _ => exact steady_makeDirUnlessThere path
        | error e => exact steady_pure _
      | _ => exact steady_unlessThere path _
    · exact steady_pure _

theorem steady_save (path text : Text) : Steady (disk.save client.log path text) := by
  apply (steady_makeDirs _).bind
  intro result
  cases result with
  | error e => exact steady_pure _
  | ok _ =>
    apply (steady_attempt (·.write? path (Utf8.encode text))).bind
    intro result
    cases result with
    | error e => exact steady_pure _
    | ok _ => exact (steady_log _).bind fun _ => steady_pure _

theorem steady_holds (path text : Text) : Steady (disk.holds path text) := by
  apply (steady_read path).bind
  intro result
  rcases result with e | content
  · cases e <;> exact steady_pure _
  · exact steady_pure _

end Rehearsal
end BookTheme
