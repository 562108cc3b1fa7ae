/-
ClusterBackup.Proofs.Http.Requests — what a run asks of the network.

The network that is recorded gets the URLs of the calls that a run makes,
each with the number and the surroundings that the call met, and nothing
else. A URL that is asked for has the pairs of the base URL, if that has
any, and after them exactly the parameters of the request.
-/
import ClusterBackup.Proofs.Http.Call
import ClusterBackup.Proofs.InvalidArgument
import ClusterBackup.Proofs.Url.Form

namespace ClusterBackup.Http

/-! ## The query of a request -/

/-- The parameters of a request are read back off its URL. -/
theorem pairs_of_requestUrl? {url : String} {params : Params} {u : Url}
    (asked : requestUrl? url params = some u) :
    ∃ base, Url.parse? url = some base ∧ u.pairs = base.pairs ++ params ++ [formatParam] := by
  obtain ⟨base, written, rfl⟩ := Option.map_eq_some_iff.mp asked
  exact ⟨base, written, by rw [Url.pairs_withQuery, List.append_assoc]⟩

/-! ## The requests of a run -/

section

variable {ν : Type} (t : Transport ν)

/-- Recording notes the URL of a plan and answers as before. -/
theorem Plan.network_recording {α : Type} (p : Plan α) (s : State (ν × List Url)) :
    (p.carryOut t.recording s).2.network.2 = s.network.2 ++ p.url?.toList := by
  cases p with
  | settled answer => simp [carryOut, url?]
  | posted url params nextId read =>
    rw [carryOut, send, url?]
    cases requestUrl? url params with
    | none => simp
    | some u => rfl

/-- A call sends the request that it asks for. -/
theorem network_answer_recording (c : Config) (env : Surroundings) (call : AdminCall)
    (s : State (ν × List Url)) :
    (answer c env t.recording call s).2.network.2 =
      s.network.2 ++ (asked? c env s.nextId call).toList := by
  rw [answer_eq, Plan.network_recording, asked?]

/-- The requests of a run are those of its calls, in their order. -/
theorem requests_of_run {α : Type} (c : Config) (env : Nat → Surroundings) (w : Workflow α)
    (s : State (ν × List Url)) (n : Nat) :
    let client := Client.overTime fun n => client c (env n) t.recording
    (w.run client (s, n)).state.1.network.2 = s.network.2 ++
      (w.visits client (s, n)).filterMap fun v => asked? c (env v.2.2) v.2.1.nextId v.1 := by
  intro client
  induction w generalizing s n with
  | done a => simp [Workflow.visits]
  | ask call next ih =>
    have noted : ((Http.client c (env n) t.recording).answer call s).2.network.2 =
        s.network.2 ++ (asked? c (env n) s.nextId call).toList :=
      network_answer_recording t c (env n) call s
    simp only [client, Workflow.run_ask, Workflow.visits, Client.answer_overTime] at ih ⊢
    rw [ih, noted, List.filterMap_cons, List.append_assoc]
    cases asked? c (env n) s.nextId call with
    | none => rfl
    | some u => rfl
  | tell report next ih => exact ih s n

end

end ClusterBackup.Http
