import Mathlib.Data.List.Nodup
import VicProvider.Session

/-!
# Sessions side by side

Virtual-kubelet creates pods concurrently, and the isolation proxy keeps no state of
its own: concurrent sessions meet only at the port layer, which answers each request
given every exchange before it, whichever session made it.  A `Fleet` is a set of
sessions, each with the handle it started from and what is left of its call tree, and a
shared log whose exchanges are tagged with their session.  `Fleet.interleave` steps the
sessions in the order a schedule names them, against one oracle.

* `SessionInv` is what holds of one session at every point of a run, whatever the other
  sessions did in between; `SessionInv.call` is its step lemma and
  `SessionInv.discipline` turns it into `HandleDiscipline` once the session is done.
* `interleave_session_discipline` — under every schedule and every port layer, each
  session's exchanges in the shared log are threaded from its starting handle, and a
  finished session obeys the handle discipline on them, as when it runs alone.
* `interleave_no_handle_reuse` — when the port layer never hands out the same handle
  twice, nor one the sessions start from, and the sessions start from distinct handles,
  no handle is sent twice in the whole log.  The proof keeps a count: every handle sent
  or about to be sent came from a starting handle or a reply, and each one at most once.
-/

namespace Vic

open Models

/-- The handle the next request of a call tree carries; `none` once it has finished. -/
def Remote.firstHandle : Remote HandleResult → Option String
  | .done _ => none
  | .call q _ => q.handle

/-- A finished session sends no handle. -/
@[simp] theorem Remote.firstHandle_done (res : HandleResult) : (Remote.done res).firstHandle = none :=
  rfl

/-- A session about to call sends the handle of its request. -/
@[simp] theorem Remote.firstHandle_call (q : Request) (k : Except ClientError q.Reply → Remote HandleResult) :
    (Remote.call q k).firstHandle = q.handle := rfl

/-- The handle a session that started from `h` sends next after its exchanges `es`: `h`
before any, then the handle the last reply returned, and none after a rejected reply. -/
def nextHandle (h : String) (es : List Exchange) : Option String :=
  match es.getLast? with
  | none => some h
  | some e => e.handleOut

/-- Before any exchange the next handle is the starting one. -/
@[simp] theorem nextHandle_nil (h : String) : nextHandle h [] = some h := rfl

/-- After an exchange the next handle is the one its reply returned. -/
@[simp] theorem nextHandle_concat (h : String) (es : List Exchange) (e : Exchange) :
    nextHandle h (es ++ [e]) = e.handleOut := by
  simp [nextHandle]

/-- The next handle depends only on the last exchange. -/
theorem nextHandle_cons_cons (h : String) (e e' : Exchange) (es : List Exchange) :
    nextHandle h (e :: e' :: es) = nextHandle h (e' :: es) := by
  simp [nextHandle, List.getLast?_cons_cons]

/-- A threaded transcript stays threaded when its next request carries the handle it
must send. -/
theorem Threaded.concat {h cur : String} {es : List Exchange} {e : Exchange}
    (ht : Threaded h es) (hnext : nextHandle h es = some cur) (he : e.request.handle = some cur) :
    Threaded h (es ++ [e]) := by
  induction es generalizing h with
  | nil =>
    cases hnext
    exact ⟨he, fun hne => absurd rfl hne⟩
  | cons e₀ es ih =>
    refine ⟨ht.1, fun _ => ?_⟩
    rcases es with _ | ⟨e₁, es⟩
    · exact ⟨cur, hnext, he, fun hne => absurd rfl hne⟩
    · obtain ⟨h', hout, ht'⟩ := ht.2 (List.cons_ne_nil _ _)
      exact ⟨h', hout, ih ht' (by rwa [nextHandle_cons_cons] at hnext)⟩

/-- A tree threading `h` sends `h` first, if it sends anything. -/
theorem Remote.Threads.firstHandle {p : Remote HandleResult} {h : String} (hp : p.Threads h) :
    p.firstHandle = none ∨ p.firstHandle = some h := by
  cases p with
  | done => exact .inl rfl
  | call q k => exact .inr hp.1

/-- After a reply, a threading tree sends nothing more or the handle the reply returned. -/
theorem Remote.Threads.firstHandle_next {q : Request} {k : Except ClientError q.Reply → _}
    {h : String} (hp : (Remote.call q k).Threads h) (r : Except ClientError q.Reply) :
    (k r).firstHandle = none ∨ (k r).firstHandle = (⟨q, r⟩ : Exchange).handleOut := by
  have hk := hp.2 r
  revert hk
  cases (⟨q, r⟩ : Exchange).handleOut with
  | none =>
    rintro ⟨v, err, hkr⟩
    exact .inl (by rw [hkr]; rfl)
  | some h' =>
    rintro (hkr | hkr)
    · exact .inl (by rw [hkr]; rfl)
    · exact hkr.firstHandle

/-! ### One session, whatever the others do -/

/-- What holds of a session at every point of a run: its exchanges so far are threaded
from `h`, and what is left of it threads the handle it sends next, has finished with that
handle, or has failed after a rejected reply. -/
def SessionInv (h : String) (es : List Exchange) (p : Remote HandleResult) : Prop :=
  Threaded h es ∧
    match nextHandle h es with
    | some cur => p.Threads cur ∨ (es ≠ [] ∧ p = .done (cur, none))
    | none => ∃ v err, p = .done (v, some err)

namespace SessionInv

variable {h : String} {es : List Exchange}

/-- A session that has only been asked to make requests threads the next handle. -/
theorem threads_of_call {q : Request} {k : Except ClientError q.Reply → Remote HandleResult}
    (hi : SessionInv h es (.call q k)) :
    ∃ cur, nextHandle h es = some cur ∧ (Remote.call q k).Threads cur := by
  obtain ⟨-, hn⟩ := hi
  revert hn
  cases nextHandle h es with
  | none => rintro ⟨_, _, ⟨⟩⟩
  | some cur => rintro (hp | ⟨-, ⟨⟩⟩); exact ⟨cur, rfl, hp⟩

/-- **Step.**  One more request and its reply, whatever the reply, keep the invariant. -/
theorem call {q : Request} {k : Except ClientError q.Reply → Remote HandleResult}
    (hi : SessionInv h es (.call q k)) (r : Except ClientError q.Reply) :
    SessionInv h (es ++ [⟨q, r⟩]) (k r) := by
  obtain ⟨cur, hnext, hp⟩ := hi.threads_of_call
  refine ⟨hi.1.concat hnext hp.1, ?_⟩
  rw [nextHandle_concat]
  have hk := hp.2 r
  revert hk
  cases (⟨q, r⟩ : Exchange).handleOut with
  | none => exact id
  | some h' => rintro (hkr | hkr); exacts [.inr ⟨by simp, hkr⟩, .inl hkr]

/-- A finished session obeys the handle discipline on its exchanges. -/
theorem discipline {res : HandleResult} (hi : SessionInv h es (.done res)) :
    HandleDiscipline h (es, res) := by
  obtain ⟨ht, hn⟩ := hi
  refine .of_returns ht (fun e he hrej => ?_) fun hres => ?_
  · have hout : nextHandle h es = none := by
      cases ho : e.handleOut with
      | none => simp [nextHandle, Option.mem_def.mp he, ho]
      | some _ => simp [Exchange.not_rejected_of_handleOut ho] at hrej
    rw [hout] at hn
    obtain ⟨v, err, ⟨⟩⟩ := hn
    rfl
  · change res.2 = none at hres
    change es.getLast?.bind Exchange.handleOut = some res.1
    revert hn
    cases hnext : nextHandle h es with
    | none => rintro ⟨v, err, ⟨⟩⟩; simp at hres
    | some cur =>
      rintro (hp | ⟨hne, ⟨⟩⟩)
      · simp [Remote.Threads, hres] at hp
      · obtain ⟨e, he⟩ := Option.ne_none_iff_exists'.mp (List.getLast?_eq_none_iff.not.mpr hne)
        simp only [nextHandle, he] at hnext
        simp [he, hnext]

end SessionInv

/-! ### The fleet -/

/-- Sessions running side by side against one port layer: for each, the handle it
started from and what is left of its call tree; and the shared log, each exchange tagged
with the index of its session. -/
structure Fleet where
  sessions : List (String × Remote HandleResult)
  log : List (Nat × Exchange)

namespace Fleet

/-- The exchanges of session `i`, in the order they happened. -/
def exchangesOf (st : Fleet) (i : Nat) : List Exchange :=
  (st.log.filter (·.1 = i)).map Prod.snd

/-- Session `i` makes its next request, if it has one; the port layer answers it given
the whole log so far, every session's exchanges included. -/
def step (o : Oracle) (st : Fleet) (i : Nat) : Fleet :=
  match st.sessions[i]? with
  | some (h, .call q k) =>
    let e : Exchange := ⟨q, o (st.log.map Prod.snd) q⟩
    ⟨st.sessions.set i (h, k e.response), st.log ++ [(i, e)]⟩
  | _ => st

/-- Run the sessions in the order a schedule names them; a session with nothing left to
do, or no session at all, is passed over. -/
def interleave (o : Oracle) : List Nat → Fleet → Fleet
  | [], st => st
  | i :: sched, st => interleave o sched (st.step o i)

/-- What a step can do: nothing, or session `i` sends its next request and takes the
port layer's answer. -/
theorem step_cases (o : Oracle) (st : Fleet) (i : Nat) :
    st.step o i = st ∨ ∃ h q k, st.sessions[i]? = some (h, .call q k) ∧
      st.step o i = ⟨st.sessions.set i (h, k (o (st.log.map Prod.snd) q)),
        st.log ++ [(i, ⟨q, o (st.log.map Prod.snd) q⟩)]⟩ := by
  unfold step
  split
  · exact .inr ⟨_, _, _, ‹_›, rfl⟩
  · exact .inl rfl

/-- An exchange logged for session `i` is its latest. -/
theorem exchangesOf_append_self (ss : List (String × Remote HandleResult))
    (log : List (Nat × Exchange)) (i : Nat) (e : Exchange) :
    (⟨ss, log ++ [(i, e)]⟩ : Fleet).exchangesOf i = (⟨ss, log⟩ : Fleet).exchangesOf i ++ [e] := by
  simp [exchangesOf]

/-- An exchange logged for another session leaves the exchanges of session `i` as
they were. -/
theorem exchangesOf_append_ne (ss ss' : List (String × Remote HandleResult))
    (log : List (Nat × Exchange)) {i j : Nat} (hij : i ≠ j) (e : Exchange) :
    (⟨ss, log ++ [(j, e)]⟩ : Fleet).exchangesOf i = (⟨ss', log⟩ : Fleet).exchangesOf i := by
  simp [exchangesOf, Ne.symm hij]

/-- A step keeps each session's starting handle. -/
theorem sessions_fst_step (o : Oracle) (st : Fleet) (i : Nat) :
    (st.step o i).sessions.map Prod.fst = st.sessions.map Prod.fst := by
  rcases step_cases o st i with heq | ⟨h, q, k, hi, heq⟩
  · rw [heq]
  · obtain ⟨hlt, -⟩ := List.getElem?_eq_some_iff.mp hi
    rw [heq, List.map_set]
    refine List.ext_getElem? fun n => ?_
    by_cases hn : i = n
    · subst hn
      rw [List.getElem?_set_self (by simpa using hlt), List.getElem?_map, hi]
      rfl
    · rw [List.getElem?_set_ne hn]

/-! ### Every session keeps its invariant -/

/-- Each session keeps `SessionInv` from the handle it started from. -/
def Inv (st : Fleet) : Prop :=
  ∀ i s, st.sessions[i]? = some s → SessionInv s.1 (st.exchangesOf i) s.2

/-- **Step lemma.**  A step keeps every session's invariant. -/
theorem Inv.step {st : Fleet} (hinv : st.Inv) (o : Oracle) (j : Nat) : (st.step o j).Inv := by
  rcases step_cases o st j with heq | ⟨h, q, k, hj, heq⟩
  · rwa [heq]
  rw [heq]
  intro i s hs
  by_cases hij : i = j
  · subst hij
    rw [List.getElem?_set, if_pos rfl, if_pos (List.getElem?_eq_some_iff.mp hj).1] at hs
    cases hs
    rw [exchangesOf_append_self]
    exact (hinv i _ hj).call _
  · rw [List.getElem?_set_ne (Ne.symm hij)] at hs
    rw [exchangesOf_append_ne _ st.sessions _ hij]
    exact hinv i s hs

/-- **Run lemma.**  The invariant holds after every schedule. -/
theorem Inv.interleave {st : Fleet} (hinv : st.Inv) (o : Oracle) (sched : List Nat) :
    (interleave o sched st).Inv := by
  induction sched generalizing st with
  | nil => exact hinv
  | cons i sched ih => exact ih (hinv.step o i)

/-- A schedule keeps each session's starting handle. -/
theorem sessions_fst_interleave (o : Oracle) (sched : List Nat) (st : Fleet) :
    (interleave o sched st).sessions.map Prod.fst = st.sessions.map Prod.fst := by
  induction sched generalizing st with
  | nil => rfl
  | cons i sched ih => exact (ih _).trans (sessions_fst_step o st i)

/-! ### No handle is sent twice -/

/-- The handles the requests of the log carry, in order. -/
def sent (st : Fleet) : List String := st.log.filterMap (·.2.request.handle)

/-- The handles the sessions are about to send. -/
def pending (st : Fleet) : List String := st.sessions.filterMap (·.2.firstHandle)

/-- The handles the port layer returned in the log. -/
def returned (st : Fleet) : List String := st.log.filterMap (·.2.handleOut)

/-- Every handle sent or about to be sent came, as often, from a starting handle in `hs`
or from a reply. -/
def Sourced (hs : List String) (st : Fleet) : Prop :=
  ∀ x, st.sent.count x + st.pending.count x ≤ hs.count x + st.returned.count x

/-- **Step lemma.**  A step keeps every handle sent or pending accounted for. -/
theorem Sourced.step {hs : List String} {st : Fleet} (hinv : st.Inv) (hsrc : Sourced hs st)
    (o : Oracle) (j : Nat) : Sourced hs (st.step o j) := by
  rcases step_cases o st j with heq | ⟨h, q, k, hj, heq⟩
  · rwa [heq]
  obtain ⟨cur, -, hp⟩ := (hinv j _ hj).threads_of_call
  obtain ⟨hlt, hget⟩ := List.getElem?_eq_some_iff.mp hj
  intro x
  have hx := hsrc x
  have hpend := List.boole_getElem_le_countP (fun s => s.2.firstHandle == some x) st.sessions j hlt
  have hnext : (if ((k (o (st.log.map Prod.snd) q)).firstHandle == some x) = true then 1 else 0) ≤
      if ((⟨q, o (st.log.map Prod.snd) q⟩ : Exchange).handleOut == some x) = true then 1 else 0 := by
    rcases hp.firstHandle_next (o (st.log.map Prod.snd) q) with hn | hn <;> simp [hn]
  rw [heq]
  simp only [sent, pending, returned, List.count_filterMap] at hx ⊢
  rw [List.countP_set _ _ _ _ hlt, List.countP_append, List.countP_append]
  simp only [hget, List.countP_singleton, Remote.firstHandle_call] at hpend ⊢
  omega

/-- **Run lemma.**  Every handle sent or pending stays accounted for under every
schedule. -/
theorem Sourced.interleave {hs : List String} {st : Fleet} (hinv : st.Inv) (hsrc : Sourced hs st)
    (o : Oracle) (sched : List Nat) : Sourced hs (interleave o sched st) := by
  induction sched generalizing st with
  | nil => exact hsrc
  | cons i sched ih => exact ih (hinv.step o i) (hsrc.step hinv o i)

end Fleet

/-- A port layer that accepts every handle request and answers the `n`th exchange of the
whole run with the handle `n`. -/
def countingOracle : Oracle := fun past q =>
  match q with
  | .containersCreate _ => .error (.transport "unsupported")
  | .containersGet _ => .ok (toString past.length)
  | .join _ => .ok (.string (toString past.length))
  | .scopesAddContainer _ _ => .ok (toString past.length)
  | .scopesRemoveContainer _ _ => .ok ()
  | .containersCommit _ _ => .ok ()
  | .containersStateChange _ _ => .ok (toString past.length)

namespace Proxy.VicIsolationProxy

variable (v : VicIsolationProxy)

/-- A session with an operation threads its handle. -/
theorem session_threads_of_ne_nil {ops : List HandleOp} (hops : ops ≠ []) (h : String) :
    (v.session ops h).Threads h := by
  obtain _ | ⟨op, ops⟩ := ops
  · exact absurd rfl hops
  · exact (v.runOp_threads op h).andThen (v.session_threads ops)

/-- The proxy's sessions `ss`, each a list of operations and the handle it starts from,
about to run side by side. -/
def fleet (ss : List (List Proxy.HandleOp × String)) : Fleet :=
  ⟨ss.map fun s => (s.2, v.session s.1 s.2), []⟩

/-- The proxy's sessions start with their invariant. -/
theorem fleet_inv {ss : List (List Proxy.HandleOp × String)} (hops : ∀ s ∈ ss, s.1 ≠ []) :
    (v.fleet ss).Inv := by
  intro i s hs
  simp only [fleet, List.getElem?_map, Option.map_eq_some'] at hs
  obtain ⟨s', hs', rfl⟩ := hs
  exact ⟨trivial, .inl (v.session_threads_of_ne_nil (hops s' (List.mem_iff_getElem?.mpr ⟨_, hs'⟩)) _)⟩

/-- At the start every handle about to be sent is a starting handle. -/
theorem fleet_sourced {ss : List (List Proxy.HandleOp × String)} (hops : ∀ s ∈ ss, s.1 ≠ []) :
    Fleet.Sourced (ss.map Prod.snd) (v.fleet ss) := by
  intro x
  simp only [Fleet.sent, Fleet.pending, Fleet.returned, fleet, List.filterMap_nil,
    List.count_nil, Nat.zero_add, Nat.add_zero, List.filterMap_map, List.count_filterMap]
  rw [List.count_eq_countP, List.countP_map]
  refine List.countP_mono_left fun s hs hx => ?_
  rcases (v.session_threads_of_ne_nil (hops s hs) s.2).firstHandle with h | h <;>
    simp_all [Function.comp]

/-- Session `i` is still in the fleet after any schedule, with the handle it started
from. -/
theorem interleave_fleet_getElem? (ss : List (List Proxy.HandleOp × String)) (o : Oracle)
    (sched : List Nat) {i : Nat} (hi : i < ss.length) :
    ∃ p, (Fleet.interleave o sched (v.fleet ss)).sessions[i]? = some (ss[i].2, p) := by
  obtain ⟨s, hs, hs1⟩ := Option.map_eq_some'.mp (show
      ((Fleet.interleave o sched (v.fleet ss)).sessions[i]?).map Prod.fst = some ss[i].2 by
    rw [← List.getElem?_map, Fleet.sessions_fst_interleave]
    simp [fleet, hi])
  exact ⟨s.2, by rw [hs, ← hs1]⟩

/-- **Handle discipline under interleaving.**  Against every port layer and under every
schedule, the exchanges of each session of the proxy are threaded from the handle it
started from, and a finished session obeys the handle discipline on them. -/
theorem interleave_session_discipline (ss : List (List Proxy.HandleOp × String))
    (hops : ∀ s ∈ ss, s.1 ≠ []) (o : Oracle) (sched : List Nat) (i : Nat) (hi : i < ss.length) :
    Threaded ss[i].2 ((Fleet.interleave o sched (v.fleet ss)).exchangesOf i) ∧
      ∀ res, (Fleet.interleave o sched (v.fleet ss)).sessions[i]? = some (ss[i].2, .done res) →
        HandleDiscipline ss[i].2 ((Fleet.interleave o sched (v.fleet ss)).exchangesOf i, res) := by
  have hinv := (v.fleet_inv hops).interleave o sched
  obtain ⟨p, hs⟩ := v.interleave_fleet_getElem? ss o sched hi
  refine ⟨(hinv i _ hs).1, fun res hres => ?_⟩
  rw [hs] at hres
  cases hres
  exact (hinv i _ hs).discipline

/-- Two sessions of a connected proxy: one adds logging to `h1`, the other adds
interaction to `h2` and then sets its state. -/
def twoSessions : List (List HandleOp × String) :=
  [([.addLoggingToHandle], "h1"), ([.addInteractionToHandle, .setState "web" "running"], "h2")]

/-- A case: the second of two sessions, under the schedule `[1, 0, 1]`. -/
theorem interleave_session_discipline_two_sessions :
    (∀ s ∈ twoSessions, s.1 ≠ []) ∧ 1 < twoSessions.length ∧
    (Threaded "h2" ((Fleet.interleave countingOracle [1, 0, 1]
        ((⟨true⟩ : VicIsolationProxy).fleet twoSessions)).exchangesOf 1) ∧
      ∀ res, (Fleet.interleave countingOracle [1, 0, 1]
          ((⟨true⟩ : VicIsolationProxy).fleet twoSessions)).sessions[1]? = some ("h2", .done res) →
        HandleDiscipline "h2" ((Fleet.interleave countingOracle [1, 0, 1]
          ((⟨true⟩ : VicIsolationProxy).fleet twoSessions)).exchangesOf 1, res)) :=
  ⟨by simp [twoSessions], by decide,
    interleave_session_discipline ⟨true⟩ twoSessions (by simp [twoSessions]) countingOracle [1, 0, 1] 1
      (by decide)⟩

/-- **No handle is sent twice.**  When the sessions start from distinct handles and the
port layer, under the whole run, never returns a handle twice nor one of those, no two
requests of the shared log carry the same handle, whatever the schedule. -/
theorem interleave_no_handle_reuse (ss : List (List Proxy.HandleOp × String))
    (hops : ∀ s ∈ ss, s.1 ≠ []) (o : Oracle) (sched : List Nat)
    (hfresh : (ss.map Prod.snd ++
      (Fleet.interleave o sched (v.fleet ss)).log.filterMap (·.2.handleOut)).Nodup) :
    ((Fleet.interleave o sched (v.fleet ss)).log.filterMap (·.2.request.handle)).Nodup := by
  have hsrc := (v.fleet_sourced hops).interleave (v.fleet_inv hops) o sched
  rw [List.nodup_iff_count_le_one] at hfresh ⊢
  intro x
  have h₁ := hsrc x
  have h₂ := hfresh x
  rw [List.count_append] at h₂
  simp only [Fleet.sent, Fleet.returned] at h₁
  omega

/-- A case: two sessions under the schedule `[1, 0, 1]`, against a port layer that
numbers its handles. -/
theorem interleave_no_handle_reuse_two_sessions :
    (∀ s ∈ twoSessions, s.1 ≠ []) ∧
    (twoSessions.map Prod.snd ++ (Fleet.interleave countingOracle [1, 0, 1]
      ((⟨true⟩ : VicIsolationProxy).fleet twoSessions)).log.filterMap (·.2.handleOut)).Nodup ∧
    ((Fleet.interleave countingOracle [1, 0, 1]
      ((⟨true⟩ : VicIsolationProxy).fleet twoSessions)).log.filterMap (·.2.request.handle)).Nodup :=
  ⟨by simp [twoSessions], by decide,
    interleave_no_handle_reuse ⟨true⟩ twoSessions (by simp [twoSessions]) countingOracle [1, 0, 1]
      (by decide)⟩

end Proxy.VicIsolationProxy

end Vic
