/-
ClusterBackup.Proofs.Workflow.Transcript — which calls a workflow makes,
and how they were answered.

`Client.recording` is a client that writes down every call with its
answer, and `Workflow.transcript` is what it has written at the end of a
run. `run_recording` says that writing disturbs nothing: outcome, reports
and state are those of the client itself. A statement about transcripts is
therefore one about every client, however its answers depend on what it
was asked before.

`transcript_ask` and its kin take a transcript apart call by call. What a
run does to the client is in its transcript, too: `replays_transcript`.

`Workflow.visits` lists the calls of a run with the states that they met,
and an answer of the transcript is what the client gives to the call in its
state: `transcript_eq_map`. So what is known of the answers of a client in
any state holds of all answers of a run.
-/
import ClusterBackup.Proofs.Workflow.Run

namespace ClusterBackup

/-- A call and what it was answered with. -/
structure Exchange where
  call : AdminCall
  answer : Except Error call.Answer

/-- A call was made and got an answer. -/
def Answered (t : List Exchange) (call : AdminCall) (answer : Except Error call.Answer) : Prop :=
  ⟨call, answer⟩ ∈ t

/-- A call was made. -/
def Made (t : List Exchange) (call : AdminCall) : Prop := call ∈ t.map (·.call)

/-- A client with a list of the exchanges so far in its state. -/
def Client.recording {σ : Type} (client : Client σ) : Client (σ × List Exchange) where
  name := client.name
  answer call p :=
    let (answer, s) := client.answer call p.1
    (answer, (s, p.2 ++ [⟨call, answer⟩]))

namespace Workflow

variable {α β σ : Type} (client : Client σ)

/-- The calls of a run with their answers, in their order. -/
def transcript (w : Workflow α) (s : σ) : List Exchange :=
  (w.run client.recording (s, [])).state.2

/-- The calls of a run, in their order. -/
def calls (w : Workflow α) (s : σ) : List AdminCall :=
  (w.transcript client s).map (·.call)

/-! ## Transcripts, call by call -/

/-- Recording adds the transcript to what was written before, and changes nothing else. -/
theorem run_recording (w : Workflow α) (s : σ) (written : List Exchange) :
    w.run client.recording (s, written) =
      let r := w.run client s
      ⟨r.result, r.reports, (r.state, written ++ w.transcript client s)⟩ := by
  -- A transcript is itself a recording that starts with nothing, so both start anywhere.
  induction w generalizing s written with
  | done a => simp [transcript, run]
  | ask c next ih =>
    simp only [transcript, run_ask, Client.recording] at ih ⊢
    rw [ih, ih _ _ ([] ++ _)]
    simp
  | tell report next ih =>
    simp only [transcript, run] at ih ⊢
    rw [ih]

@[simp] theorem transcript_done (a : α) (s : σ) : (done a).transcript client s = [] := rfl

@[simp] theorem transcript_ask (c : AdminCall) (next : Except Error c.Answer → Workflow α)
    (s : σ) :
    (ask c next).transcript client s =
      ⟨c, (client.answer c s).1⟩ ::
        (next (client.answer c s).1).transcript client (client.answer c s).2 := by
  simp only [transcript, run_ask]
  change (Workflow.run client.recording _
    ((client.answer c s).2, [] ++ [⟨c, (client.answer c s).1⟩])).state.2 = _
  rw [run_recording]
  rfl

@[simp] theorem transcript_tell (report : Report) (next : Workflow α) (s : σ) :
    (tell report next).transcript client s = next.transcript client s := rfl

/-- A workflow that asks makes its call first, and then those of what follows the answer. -/
theorem calls_ask (c : AdminCall) (next : Except Error c.Answer → Workflow α) (s : σ) :
    (ask c next).calls client s =
      c :: (next (client.answer c s).1).calls client (client.answer c s).2 := by
  rw [calls, transcript_ask, List.map_cons]
  rfl

/-- What comes after a workflow makes its calls after the calls of the workflow. -/
theorem transcript_bind (w : Workflow α) (f : α → Workflow β) (s : σ) :
    (w.bind f).transcript client s = w.transcript client s ++
      (f (w.run client s).result).transcript client (w.run client s).state := by
  induction w generalizing s with
  | done a => rfl
  | ask c next ih => rw [ask_bind, transcript_ask, transcript_ask, ih, List.cons_append, run_ask]
  | tell report next ih => exact ih s

/-- From its first state on the client gives the answers of the transcript, one after another, and
comes to the last state. -/
def Replays : σ → List Exchange → σ → Prop
  | s, [], s' => s = s'
  | s, x :: t, s' =>
    (client.answer x.call s).1 = x.answer ∧ Replays (client.answer x.call s).2 t s'

@[simp] theorem replays_nil (s s' : σ) : Replays client s [] s' ↔ s = s' := Iff.rfl

@[simp] theorem replays_cons (s : σ) (x : Exchange) (t : List Exchange) (s' : σ) :
    Replays client s (x :: t) s' ↔
      (client.answer x.call s).1 = x.answer ∧ Replays client (client.answer x.call s).2 t s' :=
  Iff.rfl

/-- The transcript of a run takes the client to the state at its end. -/
theorem replays_transcript (w : Workflow α) (s : σ) :
    Replays client s (w.transcript client s) (w.run client s).state := by
  induction w generalizing s with
  | done a => rfl
  | ask c next ih =>
    rw [transcript_ask, replays_cons]
    exact ⟨rfl, ih _ _⟩
  | tell report next ih => exact ih s

/-! ## Where calls are made -/

/-- The calls of a run, each with the state of the client that it meets. -/
def visits : Workflow α → σ → List (AdminCall × σ)
  | done _, _ => []
  | ask call next, s =>
    (call, s) :: (next (client.answer call s).1).visits (client.answer call s).2
  | tell _ next, s => next.visits s

/-- A transcript has what the client answers to each call in its state. -/
theorem transcript_eq_map (w : Workflow α) (s : σ) :
    w.transcript client s = (w.visits client s).map fun v => ⟨v.1, (client.answer v.1 v.2).1⟩ := by
  induction w generalizing s with
  | done a => rfl
  | ask c next ih => rw [transcript_ask, visits, List.map_cons, ih]
  | tell report next ih => rw [transcript_tell, visits, ih]

variable {client} in
/-- What was answered is what the client answers to the call in some state of the run. -/
theorem answered_transcript_iff {w : Workflow α} {s : σ} {call : AdminCall}
    {a : Except Error call.Answer} :
    Answered (w.transcript client s) call a ↔
      ∃ s', (call, s') ∈ w.visits client s ∧ (client.answer call s').1 = a := by
  rw [Answered, transcript_eq_map, List.mem_map]
  constructor
  · rintro ⟨⟨call', s'⟩, visited, same⟩
    cases same
    exact ⟨s', visited, rfl⟩
  · rintro ⟨s', visited, rfl⟩
    exact ⟨(call, s'), visited, rfl⟩

variable {client} in
/-- A call that meets a state was made. -/
theorem made_of_mem_visits {w : Workflow α} {s : σ} {v : AdminCall × σ}
    (visited : v ∈ w.visits client s) : Made (w.transcript client s) v.1 := by
  rw [Made, transcript_eq_map, List.map_map]
  exact List.mem_map_of_mem visited

/-- What every call of a run keeps of the state that it meets, the run keeps. -/
theorem related_of_visits {R : σ → σ → Prop} (refl : ∀ s, R s s)
    (trans : ∀ {s s' s''}, R s s' → R s' s'' → R s s'') (w : Workflow α) (s : σ)
    (kept : ∀ v ∈ w.visits client s, R v.2 (client.answer v.1 v.2).2) :
    R s (w.run client s).state := by
  induction w generalizing s with
  | done a => exact refl s
  | ask c next ih =>
    have first : R s (client.answer c s).2 := kept (c, s) List.mem_cons_self
    exact trans first (ih _ _ fun v later => kept v (List.mem_cons_of_mem _ later))
  | tell report next ih => exact ih s kept

variable {client} in
/-- A transcript of a single call leaves what the call leaves. -/
theorem Replays.eq_of_single {s s' : σ} {t : List Exchange} {call : AdminCall}
    (replayed : Replays client s t s') (single : t.map (·.call) = [call]) :
    s' = (client.answer call s).2 := by
  obtain ⟨x, rfl, rfl⟩ := List.map_eq_singleton_iff.mp single
  exact replayed.2.symm

/-! ## Reports -/

/-- Reporting an outcome makes no call. -/
@[simp] theorem transcript_reported (w : Workflow Outcome) (s : σ) :
    w.reported.transcript client s = w.transcript client s := by
  simp only [transcript, state_reported]

end Workflow

/-! ## Transcripts, exchange by exchange -/

@[simp] theorem answered_nil (call : AdminCall) (a : Except Error call.Answer) :
    ¬ Answered [] call a := by simp [Answered]

@[simp] theorem answered_cons (x : Exchange) (t : List Exchange) (call : AdminCall)
    (a : Except Error call.Answer) :
    Answered (x :: t) call a ↔ ⟨call, a⟩ = x ∨ Answered t call a := by simp [Answered]

theorem answered_append (t t' : List Exchange) (call : AdminCall)
    (a : Except Error call.Answer) :
    Answered (t ++ t') call a ↔ Answered t call a ∨ Answered t' call a := List.mem_append

@[simp] theorem made_nil (call : AdminCall) : ¬ Made [] call := by simp [Made]

@[simp] theorem made_cons (x : Exchange) (t : List Exchange) (call : AdminCall) :
    Made (x :: t) call ↔ call = x.call ∨ Made t call := by simp [Made]

/-- What was answered was asked. -/
theorem Answered.made {t : List Exchange} {call : AdminCall} {a : Except Error call.Answer}
    (h : Answered t call a) : Made t call := List.mem_map.mpr ⟨_, h, rfl⟩

theorem not_answered {t : List Exchange} {call : AdminCall} {a : Except Error call.Answer}
    (h : ¬ Made t call) : ¬ Answered t call a := mt Answered.made h

end ClusterBackup
