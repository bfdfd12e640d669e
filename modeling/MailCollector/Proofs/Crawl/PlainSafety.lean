import MailCollector.Crawl.Plain
import MailCollector.Proofs.Program.Safety

/-!
# What holds at every moment of the plain loop

The plain loop is written with attempts, which may end before their time.  `Attempt.Upholds` says
that an attempt keeps a property of histories at every moment, what holds if it is broken off, and
what holds if it comes to its end.  For each way of composing attempts there is one rule, so that a
property of the whole loop is proved along its text.

Most properties are about folders.  What the crawl of a folder makes of the history is therefore the
only thing to prove for them: the calls before, between and after the folders are settled here once
and for all (`mailboxes_upholds`).
-/

namespace MailCollector.Crawl

/-- A call that the crawl makes before, between and after the crawls of folders. -/
def Call.AroundFolders : Call → Prop
  | .clock | .readInstant _ | .writeInstant _ _ | .listFolders _ _ | .note _ => True
  | _ => False

namespace Plain

open MailCollector.Calendar MailCollector.Mail MailCollector.Log

variable {α β : Type} {allowed : List Event → Event → Prop} {inv broken : List Event → Prop}
  {h : List Event}

/-- What holds when an attempt has ended: `post` if it came to its end, and `broken` if not. -/
def Attempt.Ended (broken : List Event → Prop) (post : α → List Event → Prop) :
    Except Halt α → List Event → Prop
  | .ok a, h => post a h
  | .error _, h => broken h

/-- Started after some history, the attempt keeps `inv` at every moment, and it has `post` if it
comes to its end and `broken` if it is broken off. -/
def Attempt.Upholds (allowed : List Event → Event → Prop) (inv broken : List Event → Prop)
    (post : α → List Event → Prop) (p : Attempt α) (h : List Event) : Prop :=
  p.run.Upholds allowed inv (Attempt.Ended broken post) h

namespace Attempt

/-- An attempt that upholds something upholds what follows from it. -/
lemma Upholds.mono {post post' : α → List Event → Prop} {p : Attempt α}
    (hp : p.Upholds allowed inv broken post h) (hpost : ∀ a h, inv h → post a h → post' a h) :
    p.Upholds allowed inv broken post' h := by
  refine Program.Upholds.mono hp (fun _ hinv => hinv) fun result h hinv hresult => ?_
  cases result with
  | ok a => exact hpost a h hinv hresult
  | error halt => exact hresult

/-- An attempt only adds to the history. -/
lemma Upholds.extends {post : α → List Event → Prop} {p : Attempt α}
    (hp : p.Upholds allowed inv broken post h) :
    p.Upholds allowed inv broken (fun a h' => h <+: h' ∧ post a h') h := by
  refine Program.Upholds.mono (Program.Upholds.extends hp) (fun _ hinv => hinv) ?_
  rintro result h' - ⟨hbegins, hresult⟩
  cases result with
  | ok a => exact ⟨hbegins, hresult⟩
  | error halt => exact hresult

/-- What does nothing upholds what holds anyway. -/
lemma upholds_pure {post : α → List Event → Prop} {a : α} :
    (pure a : Attempt α).Upholds allowed inv broken post h ↔ inv h ∧ post a h := Iff.rfl

/-- What is broken off does nothing more. -/
lemma upholds_throw {post : α → List Event → Prop} {halt : Halt} :
    (throw halt : Attempt α).Upholds allowed inv broken post h ↔ inv h ∧ broken h := Iff.rfl

/-- Two attempts, one after the other. -/
lemma upholds_bind {post : β → List Event → Prop} {p : Attempt α} {f : α → Attempt β} :
    (p >>= f).Upholds allowed inv broken post h ↔
      p.Upholds allowed inv broken (fun a h => (f a).Upholds allowed inv broken post h) h := by
  unfold Upholds
  rw [ExceptT.run_bind, Program.upholds_bind]
  constructor
  · refine fun hp => hp.mono (fun _ hinv => hinv) fun result h _ hresult => ?_
    cases result with
    | ok a => exact hresult
    | error halt => exact hresult.2
  · refine fun hp => hp.mono (fun _ hinv => hinv) fun result h hinv hresult => ?_
    cases result with
    | ok a => exact hresult
    | error halt => exact ⟨hinv, hresult⟩

/-- A program that cannot fail, as an attempt. -/
lemma upholds_lift {post : α → List Event → Prop} {p : Program α} :
    Upholds allowed inv broken post (ExceptT.lift p) h ↔ p.Upholds allowed inv post h := by
  unfold Upholds
  rw [ExceptT.run_lift, map_eq_pure_bind, Program.upholds_bind]
  refine ⟨fun hp => hp.mono (fun _ hinv => hinv) ?_, fun hp => hp.mono (fun _ hinv => hinv) ?_⟩
  · exact fun a h _ hresult => hresult.2
  · exact fun a h hinv hpost => ⟨hinv, hpost⟩

/-- A note is written, and the world says nothing to it. -/
lemma upholds_noting {post : Unit → List Event → Prop} {n : Note} :
    (noting n).Upholds allowed inv broken post h ↔
      inv h ∧ (allowed h ⟨.note n, ()⟩ →
        inv (h ++ [⟨.note n, ()⟩]) ∧ post () (h ++ [⟨.note n, ()⟩])) :=
  upholds_lift.trans (and_congr_right fun _ => ⟨fun hnote => hnote (), fun hnote _ => hnote⟩)

/-- A step is tried: only if it succeeds the attempt goes on. -/
lemma upholds_tried {post : α → List Event → Prop} {step : Step}
    {outcome : Program (Except Failure α)} :
    (tried step outcome).Upholds allowed inv broken post h ↔
      outcome.Upholds allowed inv (fun result h =>
        match result with
        | .ok a => post a h
        | .error _ => broken h) h := by
  rw [tried, upholds_bind, upholds_lift]
  constructor
  · refine fun hp => hp.mono (fun _ hinv => hinv) fun result h _ hresult => ?_
    cases result with
    | ok a => exact (upholds_pure.1 hresult).2
    | error failure => exact (upholds_throw.1 hresult).2
  · refine fun hp => hp.mono (fun _ hinv => hinv) fun result h hinv hresult => ?_
    cases result with
    | ok a => exact upholds_pure.2 ⟨hinv, hresult⟩
    | error failure => exact upholds_throw.2 ⟨hinv, hresult⟩

/-- A loop over a list keeps what each round carries from the elements before it to those with it.
-/
lemma upholds_forM {f : α → Attempt Unit} (carried : List α → List Event → Prop)
    (hround : ∀ before a h, inv h → carried before h →
      (f a).Upholds allowed inv broken (fun _ h => carried (before ++ [a]) h) h)
    (as before : List α) (hinv : inv h) (hbefore : carried before h) :
    (as.forM f).Upholds allowed inv broken (fun _ h => carried (before ++ as) h) h := by
  induction as generalizing before h with
  | nil =>
    rw [List.forM_eq_forM, List.forM_nil, upholds_pure, List.append_nil]
    exact ⟨hinv, hbefore⟩
  | cons a as ih =>
    rw [List.forM_eq_forM, List.forM_cons, upholds_bind, List.append_cons]
    exact (hround before a h hinv hbefore).mono fun _ h hinv' hcarried =>
      ih (before ++ [a]) hinv' hcarried

end Attempt

/-! ### The loop around the folders -/

section Around

variable {between : List Event → Prop} {config : Config} {bound : ℕ}

/-- If the crawl of a folder takes what holds between folders to the same again, so does the crawl
of a mailbox, however it ends. -/
lemma mailbox_upholds (hinv : ∀ h, between h → inv h)
    (haround : ∀ h e, Call.AroundFolders e.1 → between h → between (h ++ [e]))
    (hfolder : ∀ name changedSince f h, between h →
      (folder config bound name changedSince f).Upholds allowed inv between (fun _ => between) h)
    (name : String) (hbetween : between h) :
    (mailbox config bound name).Upholds allowed inv between (fun _ => between) h := by
  -- What follows once the instant to resume from is known.
  have hlisted : ∀ (startedAt : Instant) (changedSince : Option Instant) (h : List Event),
      between h → Attempt.Upholds allowed inv between (fun _ => between) (do
        let folders ← tried (.listingFolders name)
          (Program.ask (.listFolders name (.wellKnown .messageRoot)))
        noting (if folders.isEmpty then .noFolders name else .foldersFound folders.length name)
        folders.forM (folder config bound name changedSince)
        tried (.writingInstant name) (Program.ask (.writeInstant name startedAt))
        noting (.mailboxFinished name)) h := by
    intro startedAt changedSince h hbetween
    have hasked := fun reply : Except Failure (List FolderId) =>
      haround h ⟨.listFolders name (.wellKnown .messageRoot), reply⟩ trivial hbetween
    rw [Attempt.upholds_bind, Attempt.upholds_tried]
    refine ⟨hinv h hbetween, fun reply _ => ⟨hinv _ (hasked reply), ?_⟩⟩
    cases reply with
    | error failure => exact hasked _
    | ok folders =>
      have hnoted := fun n : Note => haround _ ⟨.note n, ()⟩ trivial (hasked (.ok folders))
      refine Attempt.upholds_bind.2 (Attempt.upholds_noting.2 ⟨hinv _ (hasked _), fun _ => ?_⟩)
      refine ⟨hinv _ (hnoted _), Attempt.upholds_bind.2 ?_⟩
      refine (Attempt.upholds_forM (fun _ => between)
        (fun _ f h _ hbetween => hfolder _ _ f h hbetween) folders [] (hinv _ (hnoted _))
        (hnoted _)).mono fun _ h _ hbetween => ?_
      have hwritten := fun reply : Except Failure Unit =>
        haround h ⟨.writeInstant name startedAt, reply⟩ trivial hbetween
      rw [Attempt.upholds_bind, Attempt.upholds_tried]
      refine ⟨hinv h hbetween, fun reply _ => ⟨hinv _ (hwritten reply), ?_⟩⟩
      cases reply with
      | error failure => exact hwritten _
      | ok _ =>
        have hfinished := haround _ ⟨.note (.mailboxFinished name), ()⟩ trivial (hwritten (.ok ()))
        exact Attempt.upholds_noting.2 ⟨hinv _ (hwritten _), fun _ => ⟨hinv _ hfinished, hfinished⟩⟩
  have htimed := fun startedAt : Instant => haround h ⟨.clock, startedAt⟩ trivial hbetween
  cases hmode : config.mode with
  | syncToken =>
    simp only [mailbox, hmode]
    rw [Attempt.upholds_bind, Attempt.upholds_lift]
    exact ⟨hinv h hbetween, fun startedAt _ => ⟨hinv _ (htimed startedAt),
      hlisted startedAt none _ (htimed startedAt)⟩⟩
  | lastSynced =>
    simp only [mailbox, hmode]
    rw [Attempt.upholds_bind, Attempt.upholds_lift]
    refine ⟨hinv h hbetween, fun startedAt _ => ⟨hinv _ (htimed startedAt), ?_⟩⟩
    have hread := fun reply : Except Failure (Option Instant) =>
      haround _ ⟨.readInstant name, reply⟩ trivial (htimed startedAt)
    refine Attempt.upholds_bind.2 (Attempt.upholds_tried.2 ⟨hinv _ (htimed _), fun reply _ => ?_⟩)
    refine ⟨hinv _ (hread reply), ?_⟩
    cases reply with
    | error failure => exact hread _
    | ok changedSince => exact hlisted startedAt changedSince _ (hread _)

/-- If the crawl of a folder takes what holds between folders to the same again, so does the whole
plain loop. -/
theorem mailboxes_upholds (hinv : ∀ h, between h → inv h)
    (haround : ∀ h e, Call.AroundFolders e.1 → between h → between (h ++ [e]))
    (hfolder : ∀ name changedSince f h, between h →
      (folder config bound name changedSince f).Upholds allowed inv between (fun _ => between) h)
    (names : List String) (hbetween : between h) :
    (mailboxes config bound names).Upholds allowed inv (fun _ => between) h := by
  induction names generalizing h with
  | nil => exact ⟨hinv h hbetween, hbetween⟩
  | cons name names ih =>
    have hmailbox := mailbox_upholds hinv haround hfolder name hbetween
    rw [mailboxes, Program.upholds_bind]
    refine Program.Upholds.mono hmailbox (fun _ hinv => hinv) fun ended h _ hended => ?_
    match ended with
    | .ok () => exact ih hended
    | .error .unfinished => exact ⟨hinv h hended, hended⟩
    | .error (.failed failure) =>
      have hskipped := haround h ⟨.note (.mailboxSkipped name failure), ()⟩ trivial hended
      refine ⟨hinv h hended, fun _ _ =>
        (Program.upholds_bind (mailboxes config bound names) _ _).2 ?_⟩
      exact (ih hskipped).mono (fun _ hinv => hinv) fun _ _ hinv hbetween => ⟨hinv, hbetween⟩

end Around

end Plain

end MailCollector.Crawl
