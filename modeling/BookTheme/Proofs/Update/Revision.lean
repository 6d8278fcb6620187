import BookTheme.Proofs.Contents.RoundTrip
import BookTheme.Proofs.Rehearsal.Abreast
import BookTheme.Proofs.Update.Stages

/-! # The revision is only told

The address in an envelope decides nothing but what the revision is called. Two runs whose answers differ in
nothing but their addresses make the same calls, leave the same files and end in the same way; the revision
shows up where it is logged and printed, and in what is said about an error.
-/
namespace BookTheme
open Rehearsal

/-- The same failure, but for the revision that is named with it. -/
inductive Failure.Alike : Failure → Failure → Prop
  | same (failure : Failure) : Alike failure failure
  | layout (revision revision' : Text) (problem : Problem) :
      Alike (.layout revision problem) (.layout revision' problem)
  | stale (target revision revision' : Text) : Alike (.stale target revision) (.stale target revision')

/-- The same ending, but for the revision that is named with a failure. -/
inductive Ending.Alike : Ending → Ending → Prop
  | done : Alike .done .done
  | refused (refusal : CommandLine.Refusal) : Alike (.refused refusal) (.refused refusal)
  | failed {failure failure' : Failure} (h : failure.Alike failure') : Alike (.failed failure) (.failed failure')

theorem Ending.Alike.exitCode {ending ending' : Ending} (h : ending.Alike ending') :
    ending.exitCode = ending'.exitCode := by
  cases h <;> rfl

namespace Contents

/-- An envelope may be written in any way, and with any address. -/
theorem Envelope.Written.sameButAddress {e : Envelope} {address : Text} {body body' : Bytes} (h : Written e body)
    (h' : Written { e with gitUrl := address } body') : SameButAddress body body' := by
  rw [SameButAddress, h.parse, h'.parse]
  rfl

namespace Client

theorem abreast_attempt (source : Source) (number : Nat) :
    Abreast (Both Eq Envelope.SameButAddress) (Rehearsal.client.attempt source number)
      (Rehearsal.client.attempt source number) := by
  apply (abreast_get source).bind
  intro outcome outcome' h
  cases h with
  | answers hs hb =>
    simp only [hs, if_true]
    exact (abreast_log (.answered ..)).bind fun _ _ _ => .pure (.ok hb)
  | same =>
    cases outcome with
    | noReply message => exact (steady_log _).bind fun _ => .pure (.error rfl)
    | reply status body =>
      simp only
      split
      · exact (steady_log _).bind fun _ => .pure (.ok rfl)
      · exact (steady_log _).bind fun _ => .pure (.error rfl)

def AlikeAnswers (a a' : Answer) : Prop := Envelope.SameButAddress a.body a'.body ∧ a.attempts = a'.attempts

theorem abreast_answerFrom (source : Source) (delay : Delay) (more number : Nat) :
    Abreast (Both Eq AlikeAnswers) (Rehearsal.client.answerFrom source delay more number)
      (Rehearsal.client.answerFrom source delay more number) := by
  induction more generalizing number with
  | zero =>
    apply (abreast_attempt source number).bind
    intro result result' h
    cases h with
    | ok hb => exact .pure (.ok ⟨hb,rfl⟩)
    | error he => exact .pure (.error (congrArg _ he))
  | succ more ih =>
    apply (abreast_attempt source number).bind
    intro result result' h
    cases h with
    | ok hb => exact .pure (.ok ⟨hb,rfl⟩)
    | error _ => exact (steady_log _).bind fun _ => (steady_pause delay).bind fun _ => ih (number + 1)

def AlikeEnvelopes (p p' : Envelope × Nat) : Prop := p.1.unaddressed = p'.1.unaddressed ∧ p.2 = p'.2

theorem AlikeAnswers.envelope {a a' : Answer} (h : AlikeAnswers a a') :
    Both Eq AlikeEnvelopes a.envelope a'.envelope := by
  obtain ⟨hb,ha⟩ := h
  unfold Envelope.SameButAddress at hb
  unfold Answer.envelope
  cases hp : Envelope.parse a.body with
  | error e =>
    cases hp' : Envelope.parse a'.body with
    | error e' =>
      rw [hp, hp'] at hb
      exact .error (congrArg _ (Except.error.inj hb))
    | ok e' =>
      rw [hp, hp'] at hb
      cases hb
  | ok e =>
    cases hp' : Envelope.parse a'.body with
    | error e' =>
      rw [hp, hp'] at hb
      cases hb
    | ok e' =>
      rw [hp, hp'] at hb
      exact .ok ⟨Except.ok.inj hb,ha⟩

def AlikeDocuments (d d' : Document) : Prop := d.text = d'.text ∧ d.attempts = d'.attempts

theorem abreast_document (source : Source) (policy : RequestPolicy) :
    Abreast (Both Eq AlikeDocuments) (Rehearsal.client.document source policy)
      (Rehearsal.client.document source policy) := by
  have hdocument : ∀ p p' : Envelope × Nat, AlikeEnvelopes p p' →
      Both (Eq : FetchError → FetchError → Prop) AlikeDocuments (p.1.document p.2) (p'.1.document p'.2) := by
    rintro ⟨e,n⟩ ⟨e',_⟩ ⟨he,rfl⟩
    have hdecode : e.decode = e'.decode :=
      calc e.decode = e.unaddressed.decode := rfl
        _ = e'.unaddressed.decode := congrArg Envelope.decode he
        _ = e'.decode := rfl
    simp only [Envelope.document, hdecode]
    cases e'.decode with
    | error error => exact .error rfl
    | ok text => exact .ok ⟨rfl,rfl⟩
  have henvelope : Abreast (Both Eq AlikeEnvelopes) (Rehearsal.client.envelope source policy)
      (Rehearsal.client.envelope source policy) :=
    (abreast_answerFrom source policy.delay _ 1).bind fun _ _ h => .pure (h.bind fun _ _ ha => ha.envelope)
  exact henvelope.bind fun _ _ h => .pure (h.bind hdocument)

end Client
end Contents

namespace Update
open Contents

theorem abreast_fetch (s : Settings) :
    Abreast (Both Failure.Alike Client.AlikeDocuments) (fetch Rehearsal.host s) (fetch Rehearsal.host s) := by
  apply (steady_log _).bind
  intro _
  apply (Client.abreast_document s.source s.retry.policy).bind
  intro result result' h
  cases h with
  | error he => exact .pure (.error (he ▸ .same _))
  | @ok d d' hd =>
    simp only
    rw [hd.2]
    exact (abreast_log (.fetched ..)).bind fun _ _ _ => (abreast_print (.printed ..)).bind fun _ _ _ => .pure (.ok hd)

theorem steady_logAnchors (anchors : List Template.Anchor) : Steady (logAnchors Rehearsal.host anchors) := by
  induction anchors with
  | nil => exact steady_pure ()
  | cons anchor anchors ih => exact (steady_log _).bind fun _ => ih

theorem abreast_patch (s : Settings) {d d' : Document} (h : Client.AlikeDocuments d d') :
    Abreast (Both Failure.Alike Eq) (patch Rehearsal.host s d) (patch Rehearsal.host s d') := by
  unfold patch
  rw [h.1]
  cases Template.readThrough s.insertions d'.text with
  | error e => exact .pure (.error (.layout ..))
  | ok pass =>
    apply (steady_log _).bind
    intro _
    cases pass.close with
    | error e => exact .pure (.error (.layout ..))
    | ok patched => exact (steady_logAnchors _).bind fun _ => .pure (.ok rfl)

theorem abreast_check (target revision revision' text : Text) :
    Abreast (Both Failure.Alike Eq) (check Rehearsal.host target revision text)
      (check Rehearsal.host target revision' text) := by
  apply (steady_holds target text).bind
  intro result
  rcases result with e | same
  · exact .pure (.error (.same _))
  · cases same with
    | false => exact .pure (.error (.stale ..))
    | true => exact (steady_print _).bind fun _ => .pure (.ok rfl)

theorem abreast_write (target text : Text) :
    Abreast (Both Failure.Alike Eq) (write Rehearsal.host target text) (write Rehearsal.host target text) := by
  apply (steady_save target text).bind
  intro result
  cases result with
  | error e => exact .pure (.error (.same _))
  | ok bytes => exact (steady_log _).bind fun _ => (steady_print _).bind fun _ => .pure (.ok rfl)

theorem steady_forOptions (o : CommandLine.Options) : Steady (Settings.forOptions Rehearsal.disk o) := by
  have hbase : Steady (Settings.base Rehearsal.disk o) := by
    unfold Settings.base
    cases o.config with
    | none => exact steady_pure _
    | some path =>
      apply (steady_read path).bind
      intro result
      cases result with
      | error e => exact steady_pure _
      | ok bytes =>
        simp only
        cases Settings.parse bytes <;> exact steady_pure _
  exact hbase.bind fun _ => steady_pure _

theorem abreast_execute (home : Text) (o : CommandLine.Options) :
    Abreast (Both Failure.Alike Eq) (execute Rehearsal.host home o) (execute Rehearsal.host home o) := by
  apply (steady_forOptions o).bind
  intro result
  cases result with
  | error e => exact .pure (.error (.same _))
  | ok s =>
    apply (abreast_fetch s).bind
    intro result result' h
    cases h with
    | error he => exact .pure (.error he)
    | @ok d d' hd =>
      apply (abreast_patch s hd).bind
      intro result result' h
      cases h with
      | error he => exact .pure (.error he)
      | ok ht =>
        subst ht
        simp only
        split
        · exact abreast_check _ _ _ _
        · exact abreast_write _ _

theorem abreast_run (home : Text) (arguments : List Text) :
    Abreast Ending.Alike (run Rehearsal.host home arguments) (run Rehearsal.host home arguments) := by
  unfold run
  cases CommandLine.parse arguments with
  | error refusal =>
    simp only
    split
    · exact (steady_print _).bind fun _ => .pure (.refused _)
    · exact .pure (.refused _)
  | ok o =>
    apply (abreast_execute home o).bind
    intro result result' h
    cases h with
    | error he => exact .pure (.failed he)
    | ok _ => exact .pure .done

/-- If answers differ in their addresses only, the same calls are made, the same files are left, and the run ends
in the same way. Endings and what was logged and printed differ at most in the revision, and in the length that
is logged for the body of an answer. -/
theorem revision_unheeded (home : Text) (arguments : List Text) (tree : Files.Tree)
    {script script' : Nat → Source → Outcome} (h : ∀ n source, (script n source).Alike (script' n source)) :
    let one := (run Rehearsal.host home arguments).run (Rehearsal.of tree script)
    let other := (run Rehearsal.host home arguments).run (Rehearsal.of tree script')
    one.2.calls = other.2.calls ∧ one.2.tree = other.2.tree ∧ one.1.exitCode = other.1.exitCode ∧
      one.1.Alike other.1 ∧ List.Forall₂ Happening.Alike one.2.history other.2.history := by
  intro one other
  obtain ⟨hending,hmatches⟩ := abreast_run home arguments _ _ (matches_of tree h)
  exact ⟨filter_isCall_of_alike hmatches.history,hmatches.tree,hending.exitCode,hending,hmatches.history⟩

def addressedPage (address : Text) : Envelope where
  encoding := "base64".toList
  content := ("PG5hdiBpZD0ic2lkZWJhciIKPGRpdiBjbGFzcz0ic2lkZWJhci1zY3JvbGxib3giPgp7eyN0b2N9fXt7L3RvY319CjwvZGl2Pgo8" ++
    "L25hdj4=").toList
  gitUrl := address

def addressedBody (address : Text) : Bytes :=
  Json.plainObject [("encoding".toList,Json.plainQuoted (addressedPage address).encoding),
    ("content".toList,Json.plainQuoted (addressedPage address).content),("git_url".toList,Json.plainQuoted address)]

theorem written_addressed {address : Text} (h : Json.Plain address) :
    (addressedPage address).Written (addressedBody address) := by
  have hspace : Json.Space [] := by simp [Json.Space]
  have hencoding : Json.Plain "base64".toList := by decide
  have hcontent : Json.Plain (addressedPage []).content := by decide +kernel
  have hwritten : (addressedPage address).Written ([] ++ (addressedBody address ++ [])) :=
    .object hspace hspace (Json.objectOf_plain (by simp; decide)) (.refl _) hencoding.quoted hcontent.quoted h.quoted
      (by simp)
  rwa [List.append_nil, List.nil_append] at hwritten

theorem sameButAddress_addressed {address address' : Text} (h : Json.Plain address) (h' : Json.Plain address') :
    Envelope.SameButAddress (addressedBody address) (addressedBody address') :=
  (written_addressed h).sameButAddress (written_addressed h')

def addressedAnswers (address : Text) (n : Nat) (_ : Source) : Outcome :=
  if n = 0 then .reply 500 [] else .reply 200 (addressedBody address)

def staleRun (address : Text) : Ending × Rehearsal :=
  (run Rehearsal.host [] ["--check".toList,"old".toList]).run
    (Rehearsal.of ⟨[(["old".toList],.file [1])],[]⟩ (addressedAnswers address))

/-- Two runs find the target stale, and call what it should hold by different revisions. -/
theorem revision_staleRuns :
    (staleRun "a/b".toList).1 = .failed (.stale "old".toList "b".toList) ∧
    (staleRun "x//yy".toList).1 = .failed (.stale "old".toList "yy".toList) ∧
    (staleRun "a/b".toList).2.calls = (staleRun "x//yy".toList).2.calls ∧
    (staleRun "a/b".toList).2.tree = (staleRun "x//yy".toList).2.tree ∧
    (staleRun "a/b".toList).1.exitCode = (staleRun "x//yy".toList).1.exitCode ∧
    (staleRun "a/b".toList).1.Alike (staleRun "x//yy".toList).1 ∧
    List.Forall₂ Happening.Alike (staleRun "a/b".toList).2.history (staleRun "x//yy".toList).2.history := by
  have hone : (staleRun "a/b".toList).1 = .failed (.stale "old".toList "b".toList) := by decide +kernel
  have hother : (staleRun "x//yy".toList).1 = .failed (.stale "old".toList "yy".toList) := by decide +kernel
  have halike : ∀ n source,
      (addressedAnswers "a/b".toList n source).Alike (addressedAnswers "x//yy".toList n source) := by
    intro n source
    unfold addressedAnswers
    split
    · exact .same _
    · have hplain : Json.Plain "a/b".toList ∧ Json.Plain "x//yy".toList := by decide
      exact .answers (by decide) (sameButAddress_addressed hplain.1 hplain.2)
  have hagree := revision_unheeded [] ["--check".toList,"old".toList] ⟨[(["old".toList],.file [1])],[]⟩ halike
  unfold staleRun at hone hother ⊢
  exact ⟨hone,hother,hagree⟩

end Update
end BookTheme
