import VicProvider.PortLayer

/-!
# Linear handle threading

A port-layer handle is a single-owner token: every join, bind, scope or state
call consumes the current handle and its reply carries the next one.  This file
says what it means for one proxy operation to respect that, in two forms.

* `HandleDiscipline h es res` reads it off a transcript `es` and the Go result
  `res`: the first request carries `h`, every later request carries the handle
  the previous reply returned, nothing is sent after a rejected reply, a
  rejected last reply ends in a non-nil error, and a nil error comes with the
  handle of the last reply.  `ErrorDiscipline`, its part for `CommitHandle`,
  which returns only an error, asks that a nil error follow an accepted reply.
* `Remote.Threads p h` states it of a call tree, for every possible reply at
  once.

`Remote.Threads.discipline` is the bridge: a tree that threads `h` respects the
discipline on its run against every oracle.  The operations of the proxy are
then checked against `Threads`, once each, and never unfolded again.
`Remote.Threads.andThen` makes the law compositional: operations chained on the
handles they return thread the first handle through the whole chain.  And
`Threaded.nodup_handles` is what the law buys: when the port layer never returns
a handle twice, a threaded transcript never sends one twice.
-/

namespace Vic

open Models

/-- The handle a request hands to the port layer, for the calls that take one. -/
def Request.handle : Request → Option String
  | .containersCreate _ | .containersGet _ => none
  | .join j => some j.handle
  | .scopesAddContainer _ c => some c.handle
  | .scopesRemoveContainer h _ | .containersCommit h _ | .containersStateChange h _ => some h

/-- The handle a reply returns to the proxy: a join's `Handle` when it is a
string, the payload of a scope join, a state change or a get, and the handle of a
created container. -/
def Exchange.handleOut : Exchange → Option String
  | ⟨.join _, .ok (.string h)⟩ => some h
  | ⟨.scopesAddContainer _ _, .ok h⟩ => some h
  | ⟨.containersStateChange _ _, .ok h⟩ => some h
  | ⟨.containersGet _, .ok h⟩ => some h
  | ⟨.containersCreate _, .ok info⟩ => some info.handle
  | _ => none

/-- A reply the proxy cannot go on from: an error, or a join whose `Handle` is
not a string. -/
def Exchange.rejected : Exchange → Bool
  | ⟨_, .error _⟩ => true
  | ⟨.join _, .ok .nonString⟩ => true
  | _ => false

/-- A reply that returns a handle is not rejected. -/
theorem Exchange.not_rejected_of_handleOut {e : Exchange} {h : String}
    (he : e.handleOut = some h) : e.rejected = false := by
  obtain ⟨q, _ | r⟩ := e
  · cases q <;> cases he
  · cases q <;> try cases r
    all_goals first | rfl | cases he

/-- The transcript uses the handle linearly from `h`: each request carries the
handle returned by the reply just before it, the first one `h`. -/
def Threaded : String → List Exchange → Prop
  | _, [] => True
  | h, e :: es => e.request.handle = some h ∧
      (es ≠ [] → ∃ h', e.handleOut = some h' ∧ Threaded h' es)

/-- The handles a threaded transcript sends: the first one, then the handle of
each reply but the last. -/
theorem Threaded.map_handle {h : String} {es : List Exchange} (ht : Threaded h es)
    (hne : es ≠ []) : es.map (·.request.handle) = some h :: es.dropLast.map Exchange.handleOut := by
  induction es generalizing h with
  | nil => exact absurd rfl hne
  | cons e es ih =>
    obtain ⟨he, hrest⟩ := ht
    rcases es with _ | ⟨e', es⟩
    · simp [he]
    · obtain ⟨h', hout, ht'⟩ := hrest (List.cons_ne_nil _ _)
      rw [List.map_cons, he, ih ht' (List.cons_ne_nil _ _), List.dropLast_cons₂, List.map_cons,
        hout]

/-- **No handle is sent twice** when the port layer never returns a handle
twice, nor the first one. -/
theorem Threaded.nodup_handles {h : String} {es : List Exchange} (ht : Threaded h es)
    (hfresh : (some h :: es.map Exchange.handleOut).Nodup) :
    (es.map (·.request.handle)).Nodup := by
  rcases eq_or_ne es [] with rfl | hne
  · exact List.nodup_nil
  · rw [ht.map_handle hne]
    exact hfresh.sublist (((List.dropLast_prefix es).sublist.map _).cons₂ _)

/-- The handle law of an operation that returns only an error (`CommitHandle`),
read off its run: the transcript is threaded from `h`, a rejected last reply
ends it with a non-nil error, and a nil error follows an accepted last reply. -/
structure ErrorDiscipline (h : String) (run : List Exchange × Option EngineError) : Prop where
  threaded : Threaded h run.1
  stops : ∀ e ∈ run.1.getLast?, e.rejected → run.2.isSome
  accepted : run.2 = none → ∃ e ∈ run.1.getLast?, e.rejected = false

/-- The handle law of an operation returning `(handle, error)`: besides
`ErrorDiscipline`, a nil error comes with the handle of the last reply. -/
structure HandleDiscipline (h : String) (run : List Exchange × HandleResult)
    extends ErrorDiscipline h (run.1, run.2.2) : Prop where
  returns : run.2.2 = none → run.1.getLast?.bind Exchange.handleOut = some run.2.1

/-- The law of the operation that starts a lineage (`CreateHandle`): at most one
request; a rejected reply ends it with a non-nil error; a nil error returns the
id and the handle of the create reply. -/
structure CreateDiscipline (run : List Exchange × (String × String × Option EngineError)) :
    Prop where
  single : run.1.length ≤ 1
  stops : ∀ e ∈ run.1.getLast?, e.rejected → run.2.2.2.isSome
  returns : run.2.2.2 = none → ∃ cfg info,
    run.1 = [⟨.containersCreate cfg, .ok info⟩] ∧ run.2.1 = info.id ∧ run.2.2.1 = info.handle

namespace HandleDiscipline

variable {h h' : String} {e : Exchange}

/-- A nil error that comes with the handle of the last reply follows an accepted
reply, so the law needs no more than `threaded`, `stops` and `returns`. -/
theorem of_returns {run : List Exchange × HandleResult} (threaded : Threaded h run.1)
    (stops : ∀ e ∈ run.1.getLast?, e.rejected → run.2.2.isSome)
    (returns : run.2.2 = none → run.1.getLast?.bind Exchange.handleOut = some run.2.1) :
    HandleDiscipline h run :=
  ⟨⟨threaded, stops, fun hnil => by
    obtain ⟨e, he, hout⟩ := Option.bind_eq_some.mp (returns hnil)
    exact ⟨e, he, Exchange.not_rejected_of_handleOut hout⟩⟩, returns⟩

/-- One rejected exchange, then the error. -/
theorem single_fail (he : e.request.handle = some h) (v : String) (err : EngineError) :
    HandleDiscipline h ([e], (v, some err)) :=
  .of_returns ⟨he, fun hne => absurd rfl hne⟩ (by simp) (by simp)

/-- One exchange, then its handle with a nil error. -/
theorem single_done (he : e.request.handle = some h) (hout : e.handleOut = some h') :
    HandleDiscipline h ([e], (h', none)) :=
  .of_returns ⟨he, fun hne => absurd rfl hne⟩ (by simp [Exchange.not_rejected_of_handleOut hout])
    (by simp [hout])

/-- An exchange returning `h'`, then a run that keeps the law from `h'`. -/
theorem cons {es : List Exchange} {res : HandleResult} (he : e.request.handle = some h)
    (hout : e.handleOut = some h') (hd : HandleDiscipline h' (es, res))
    (hnil : es = [] → res.2.isSome) : HandleDiscipline h (e :: es, res) := by
  refine .of_returns ⟨he, fun _ => ⟨h', hout, hd.threaded⟩⟩ ?_ ?_
  all_goals rcases es with _ | ⟨e', es⟩
  · simp [hnil rfl]
  · simpa [List.getLast?_cons_cons] using hd.stops
  · simp [Option.isSome_iff_ne_none.mp (hnil rfl)]
  · simpa [List.getLast?_cons_cons] using hd.returns

end HandleDiscipline

/-- The call tree uses the handle linearly from `h`, whatever the replies: its
first request carries `h`; a reply returning `h'` is followed either by the
result `(h', nil)` or by a tree threading `h'`; any other reply ends it with a
non-nil error.  A tree may also fail before its first request. -/
def Remote.Threads : Remote HandleResult → String → Prop
  | .done res, _ => res.2.isSome
  | .call q k, h => q.handle = some h ∧ ∀ r,
      match (⟨q, r⟩ : Exchange).handleOut with
      | some h' => k r = .done (h', none) ∨ (k r).Threads h'
      | none => ∃ v err, k r = .done (v, some err)

/-- A threading tree that makes no request has failed. -/
theorem Remote.Threads.run_nil {p : Remote HandleResult} {h : String} (hp : p.Threads h)
    (o : Oracle) (past : List Exchange) (hnil : (p.run o past).1 = []) :
    (p.run o past).2.2.isSome := by
  cases p with
  | done res => exact hp
  | call q k => simp at hnil

/-- **Bridge.**  A tree that threads `h` respects the handle discipline on its
run against every oracle, after any history. -/
theorem Remote.Threads.discipline {p : Remote HandleResult} {h : String} (hp : p.Threads h)
    (o : Oracle) (past : List Exchange) :
    HandleDiscipline h (p.run o past) := by
  induction p generalizing h past with
  | done res =>
    refine .of_returns trivial (by simp) fun hr => ?_
    simp_all [Remote.Threads]
  | call q k ih =>
    obtain ⟨hq, hk⟩ := hp
    have hk := hk (o past q)
    simp only [Remote.run_call]
    revert hk
    cases hout : (⟨q, o past q⟩ : Exchange).handleOut with
    | none =>
      rintro ⟨v, err, hkr⟩
      rw [hkr]
      exact .single_fail hq v err
    | some h' =>
      rintro (hkr | hkr)
      · rw [hkr]
        exact .single_done hq hout
      · exact .cons hq hout (ih _ hkr _) (hkr.run_nil o _)

/-- Two handle operations chained as a Go caller chains them: on a nil error
the next one gets the returned handle; a non-nil error is returned as it is. -/
def Remote.andThen : Remote HandleResult → (String → Remote HandleResult) → Remote HandleResult
  | .done (h', none), f => f h'
  | .done (v, some err), _ => .done (v, some err)
  | .call q k, f => .call q fun r => (k r).andThen f

/-- The run of a chain: the first operation's run, then, on a nil error, the
next operation's run from the handle it returned, after the history so far. -/
theorem Remote.run_andThen (p : Remote HandleResult) (f : String → Remote HandleResult)
    (o : Oracle) (past : List Exchange) :
    (p.andThen f).run o past =
      match (p.run o past).2 with
      | (h', none) =>
        ((p.run o past).1 ++ ((f h').run o (past ++ (p.run o past).1)).1,
          ((f h').run o (past ++ (p.run o past).1)).2)
      | res => ((p.run o past).1, res) := by
  induction p generalizing past with
  | done res =>
    obtain ⟨v, _ | err⟩ := res
    · simp [Remote.andThen]
    · rfl
  | call q k ih =>
    simp only [Remote.andThen, Remote.run_call, ih]
    split <;> simp

/-- **Chaining.**  A tree threading `h`, continued by trees that each finish at
or thread the handle they are given, threads `h`. -/
theorem Remote.Threads.andThen {p : Remote HandleResult} {h : String} (hp : p.Threads h)
    {f : String → Remote HandleResult} (hf : ∀ h', f h' = .done (h', none) ∨ (f h').Threads h') :
    (p.andThen f).Threads h := by
  induction p generalizing h with
  | done res =>
    obtain ⟨v, _ | err⟩ := res
    · exact absurd hp Bool.false_ne_true
    · exact hp
  | call q k ih =>
    refine ⟨hp.1, fun r => ?_⟩
    have hk := hp.2 r
    revert hk
    cases (⟨q, r⟩ : Exchange).handleOut with
    | none =>
      rintro ⟨v, err, hkr⟩
      exact ⟨v, err, by simp only [hkr, Remote.andThen]⟩
    | some h' =>
      rintro (hkr | hkr)
      · simp only [hkr, Remote.andThen]
        exact hf h'
      · exact .inr (ih r hkr)

end Vic
