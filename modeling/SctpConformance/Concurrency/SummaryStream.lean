import SctpConformance.Library.Sampling
import SctpConformance.Concurrency.Summaries
import SctpConformance.Http.SummaryEvents

/-!
# The summary stream among other threads

The loop of `HandleSummaryStream` makes a summary in each turn and writes it if it is
another one than before.  A client of the stream sees the states of a feature that the
loop comes across, which need not be all that the feature is in.

Main results:

- Definition `summaryStreamBody`: the bytes of the stream, turn by turn.
- Theorem `readEvents_summaryStreamBody`: the events are the summaries without
  repetitions.
- Theorem `stream_observed`: what a client is shown is what an observer hands over who
  reads the feature whenever the loop does.
- Theorem `stream_shows_course_iff`: a client sees the feature in all its states if and
  only if the loop reads it in each of them and then writes.
-/

namespace SctpConformance

open Library

variable {c : Catalog} {host : Host}

/-! ## The loop -/

/-- The variables of the loop of `HandleSummaryStream`. -/
structure SummaryStream where
  lastSummary : CppString := []
  lastHeartbeat : TimePoint

namespace SummaryStream

/-- One turn of the loop, and what it writes; `now` is the reading of the steady clock. -/
def turn (stream : SummaryStream) (summary : CppString) (now : TimePoint) :
    SummaryStream × CppString :=
  if summary ≠ stream.lastSummary then
    ({ lastSummary := summary, lastHeartbeat := now }, writeSseEvent (str "summary") summary)
  else if now - stream.lastHeartbeat ≥ seconds 2 then
    ({ stream with lastHeartbeat := now }, str ": keep-alive\n\n")
  else (stream, [])

/-- What the turns write, one after the other. -/
def write (stream : SummaryStream) : List (CppString × TimePoint) → CppString
  | [] => []
  | (summary, now) :: turns =>
      (stream.turn summary now).2 ++ (stream.turn summary now).1.write turns

end SummaryStream

/-- The body of the response, for the summaries of the turns and their times. -/
def summaryStreamBody (connected : TimePoint) (turns : List (CppString × TimePoint)) : CppString :=
  str "retry: 1000\n\n" ++ ({ lastHeartbeat := connected } : SummaryStream).write turns

/-- The event with a summary as its data. -/
def summaryEvent (summary : CppString) : ServerSentEvent where
  name := str "summary"
  data := summary

/-- A turn writes an event, or nothing that a client takes notice of. -/
theorem SummaryStream.feedAll_turn (stream : SummaryStream) {summary : CppString}
    (hprintable : Printable summary) (hne : summary ≠ []) (now : TimePoint) :
    (stream.turn summary now).1.lastSummary = summary ∧
      EventReader.feedAll {} (stream.turn summary now).2 =
        { events := if stream.lastSummary ≠ summary then [summaryEvent summary] else [] } := by
  by_cases h : summary = stream.lastSummary
  · have hkept : EventReader.feedAll {} (str ": keep-alive\n\n") = {} := by decide
    rw [turn, if_neg (not_not.mpr h), if_neg (not_not.mpr h.symm)]
    split
    · exact ⟨h.symm, hkept⟩
    · exact ⟨h.symm, rfl⟩
  · rw [turn, if_pos h, if_pos (Ne.symm h)]
    exact ⟨rfl, feedAll_writeSseEvent printable_summary (by decide) hprintable hne⟩

/-- A reader has seen the same events that the loop has written. -/
theorem SummaryStream.feedAll_write (stream : SummaryStream) {turns : List (CppString × TimePoint)}
    (hturns : ∀ turn ∈ turns, Printable turn.1 ∧ turn.1 ≠ []) :
    EventReader.feedAll {} (stream.write turns) =
      { events :=
          (((turns.map Prod.fst).destutter' (· ≠ ·) stream.lastSummary).tail).map summaryEvent } := by
  induction turns generalizing stream with
  | nil => rfl
  | cons turn turns ih =>
      rcases turn with ⟨summary, now⟩
      rcases hturns (summary, now) List.mem_cons_self with ⟨hprintable, hne⟩
      rcases stream.feedAll_turn hprintable hne now with ⟨hlast, hevent⟩
      have hrest := ih (stream.turn summary now).1 fun turn hturn =>
        hturns turn (List.mem_cons_of_mem _ hturn)
      rw [write, EventReader.feedAll_append_blank hevent, hrest, hlast, List.map_cons]
      by_cases hnew : stream.lastSummary ≠ summary
      · rw [if_pos hnew, List.destutter'_cons_pos _ hnew, List.tail_cons,
          destutter'_eq_cons_tail summary]
        rfl
      · rw [if_neg hnew, List.destutter'_cons_neg _ hnew, not_not.mp hnew]
        rfl

/-- The events of a stream are its summaries without repetitions. -/
theorem readEvents_summaryStreamBody (connected : TimePoint)
    {turns : List (CppString × TimePoint)}
    (hturns : ∀ turn ∈ turns, Printable turn.1 ∧ turn.1 ≠ []) :
    readEvents (summaryStreamBody connected turns) =
      ((turns.map Prod.fst).destutter (· ≠ ·)).map summaryEvent := by
  have hretry : EventReader.feedAll {} (str "retry: 1000\n\n") = { events := [] } := by decide
  rw [readEvents, summaryStreamBody, EventReader.feedAll_append_blank hretry,
    SummaryStream.feedAll_write _ hturns]
  cases turns with
  | nil => rfl
  | cons turn turns =>
      have hne : ([] : CppString) ≠ turn.1 := (hturns turn List.mem_cons_self).2.symm
      rw [List.map_cons, List.destutter'_cons_pos _ hne, List.destutter_cons']
      rfl

/-! ## What a client sees -/

/-- `feature_state_from_summary`, for the text of a summary. -/
def featureStateFromSummary (featureId summary : CppString) : Option FeatureState :=
  (SummaryView.read summary).bind fun view =>
    (view.features.find? fun feature => feature.id = featureId).map ShownFeature.state

/-- The states of a feature in the summary events of a stream. -/
def streamedStates (featureId body : CppString) : List FeatureState :=
  ((readEvents body).filter fun event => event.name = str "summary").filterMap fun event =>
    featureStateFromSummary featureId event.data

/-- A summary of the catalog has one reading of each feature, and shows the state in it. -/
theorem featureStateFromSummary_summaryJson (sessionId : CppString) {entries : List (Entry c)}
    (hentries : entries.map Prod.fst = List.finRange c.features.length) (r : c.Ref) :
    ∃ e : FeatureExecution, entries.filter (fun entry => entry.1 = r) = [(r, e)] ∧
      featureStateFromSummary (c.id r) (summaryJson sessionId entries) = some e.state := by
  have hone : (entries.filter fun entry => entry.1 = r).map Prod.fst = [r] := by
    have hfilter := List.filter_map (f := Prod.fst) (p := fun ref => ref = r) (l := entries)
    rw [hentries, List.filter_eq, List.count_eq_one_of_mem (List.nodup_finRange _)
      (List.mem_finRange r)] at hfilter
    exact hfilter.symm
  rcases List.map_eq_singleton_iff.mp hone with ⟨⟨r', e⟩, hentry, hr⟩
  have hr : r' = r := hr
  rw [hr] at hentry
  refine ⟨e, hentry, ?_⟩
  have hfind : (entries.map shown).find? (fun feature => feature.id = c.id r) =
      some (shown (r, e)) := by
    have hsame : ∀ entry : Entry c, decide ((shown entry).id = c.id r) = decide (entry.1 = r) :=
      fun entry => decide_eq_decide.mpr Catalog.id_injective.eq_iff
    have hhead := congrArg List.head? hentry
    rw [List.head?_filter] at hhead
    rw [List.find?_map]
    simp only [Function.comp_def, hsame, hhead]
    rfl
  rw [featureStateFromSummary, summaryJson_read, Option.bind_some, hfind]
  rfl

/-- If every summary shows the feature, a client sees a sequence of states without
repetitions just when the summaries of the turns contain it. -/
theorem sublist_streamedStates_iff {featureId : CppString} {connected : TimePoint}
    {turns : List (CppString × TimePoint)} {states chain : List FeatureState}
    (hturns : ∀ turn ∈ turns, Printable turn.1 ∧ turn.1 ≠ [])
    (hstates : turns.map (fun turn => featureStateFromSummary featureId turn.1) =
      states.map some)
    (hchain : chain.IsChain (· ≠ ·)) :
    chain.Sublist (streamedStates featureId (summaryStreamBody connected turns)) ↔
      chain.Sublist states := by
  let texts := turns.map Prod.fst
  let state (text : CppString) : FeatureState :=
    (featureStateFromSummary featureId text).getD .pending
  have hsome : ∀ text ∈ texts, featureStateFromSummary featureId text = some (state text) := by
    intro text htext
    rcases List.mem_map.mp htext with ⟨turn, hturn, rfl⟩
    have hmem : featureStateFromSummary featureId turn.1 ∈ states.map some :=
      hstates ▸ List.mem_map_of_mem hturn
    rcases List.mem_map.mp hmem with ⟨shownState, -, hshown⟩
    simp [state, ← hshown]
  have hshown : streamedStates featureId (summaryStreamBody connected turns) =
      (texts.destutter (· ≠ ·)).map state := by
    have hnames : ∀ event ∈ (texts.destutter (· ≠ ·)).map summaryEvent,
        decide (event.name = str "summary") = true := by
      intro event hevent
      rcases List.mem_map.mp hevent with ⟨text, -, rfl⟩
      exact decide_eq_true rfl
    rw [streamedStates, readEvents_summaryStreamBody connected hturns,
      List.filter_eq_self.mpr hnames, List.filterMap_map, ← List.filterMap_eq_map]
    refine List.filterMap_congr fun text htext => ?_
    exact hsome text ((List.destutter_sublist _ texts).subset htext)
  have hall : texts.map state = states := by
    refine List.map_injective_iff.mpr (Option.some_injective _) ?_
    rw [← hstates, List.map_map, List.map_map]
    refine List.map_congr_left fun turn hturn => ?_
    exact (hsome turn.1 (List.mem_map_of_mem hturn)).symm
  rw [hshown, sublist_map_destutter_iff state hchain, hall]

/-! ## The thread of a stream -/

/-- The summary that the loop of thread `i` has made when it comes to its end, and the
time then. -/
def streamTurn? (i : Nat) (τ : ServerTransition c) : Option (CppString × TimePoint) :=
  match τ.action, τ.head? with
  | .run j input, some (.writeEvent _ _ summary) => if j = i then some (summary, input.now) else none
  | _, _ => none

/-- The turns of the loop in a run. -/
def streamTurns (i : Nat) (run : List (ServerTransition c)) : List (CppString × TimePoint) :=
  run.filterMap (streamTurn? i)

/-- One more step may end a turn. -/
theorem streamTurns_concat (i : Nat) (run : List (ServerTransition c)) (τ : ServerTransition c) :
    streamTurns i (run ++ [τ]) = streamTurns i run ++ (streamTurn? i τ).toList := by
  rw [streamTurns, List.filterMap_append]
  cases h : streamTurn? i τ with
  | none => rw [List.filterMap_cons_none h]; rfl
  | some turn => rw [List.filterMap_cons_some h]; rfl

/-- Thread `i` reads an execution for a summary. -/
def readsEntry (i : Nat) (x : Target c) (τ : ServerTransition c) : Bool :=
  match τ.action, τ.head? with
  | .run j _, some (.summaryEntry session _ _ r _ _) => j = i ∧ session = x.session ∧ r = x.feature
  | _, _ => false

/-- Thread `i` ends a turn of its loop. -/
def endsTurn (i : Nat) (τ : ServerTransition c) : Bool :=
  (streamTurn? i τ).isSome

/-- What the section that is run writes to the client arrives. -/
def written (τ : ServerTransition c) : Bool :=
  match τ.action with
  | .run _ input => input.written
  | .arrive _ => true

/-- The state that an observer looks for. -/
def featureState (x : Target c) (p : ServerState c) : FeatureState :=
  (p.shared.execution x).state

/-- What the client of thread `i` has been shown of a feature, and what it is about to be
shown. -/
def streamObserver (i : Nat) (x : Target c) (run : List (ServerTransition c)) :
    Observer FeatureState :=
  observed (featureState x) (readsEntry i x) (endsTurn i) run

/-- The sections of the loop: the features that are left to the summary under way, and
what has been read for it. -/
inductive StreamStage (session client : Nat) : Section c → List c.Ref → List (Entry c) → Prop
  | summary (left : List c.Ref) (entries : List (Entry c)) :
      StreamStage session client (.summary session client true left entries) left entries
  | entry (r : c.Ref) (left : List c.Ref) (entries : List (Entry c)) :
      StreamStage session client (.summaryEntry session client true r left entries) (r :: left)
        entries
  | event (sessionId : CppString) (entries : List (Entry c)) :
      StreamStage session client (.writeEvent session client (summaryJson sessionId entries)) []
        entries

/-- The thread is in its loop; what the client has been shown and what is about to be shown
is what an observer has seen. -/
structure Streaming (i client : Nat) (x : Target c) (run : List (ServerTransition c))
    (p : ServerState c) (calls : List (Section c)) (stage : Section c) (left : List c.Ref)
    (entries : List (Entry c)) : Prop where
  thread : p.threads i = calls ++ [stage]
  calls : ∀ s ∈ calls, s.isCall = true
  stage : StreamStage x.session client stage left entries
  covers : entries.map Prod.fst ++ left = List.finRange c.features.length
  pending : (streamObserver i x run).pending.map Prod.snd =
    (entries.filter fun entry => entry.1 = x.feature).map fun entry => entry.2.state
  shown : (streamTurns i run).map (fun turn => featureStateFromSummary (c.id x.feature) turn.1) =
    ((streamObserver i x run).handed.map Prod.snd).map some
  printable : ∀ turn ∈ streamTurns i run, Printable turn.1 ∧ turn.1 ≠ []

section

variable {i client : Nat} {x : Target c} {run : List (ServerTransition c)}
variable {τ : ServerTransition c} {calls calls' : List (Section c)} {stage stage' : Section c}
variable {left left' : List c.Ref} {entries : List (Entry c)}

/-- Whatever is no reading and no end of a turn changes nothing for the client. -/
theorem Streaming.idle (h : Streaming i client x run τ.source calls stage left entries)
    (hturn : streamTurn? i τ = none) (hreads : readsEntry i x τ = false)
    (hthread : τ.target.threads i = calls' ++ [stage']) (hcalls : ∀ s ∈ calls', s.isCall = true)
    (hstage : StreamStage x.session client stage' left entries) :
    Streaming i client x (run ++ [τ]) τ.target calls' stage' left entries := by
  have hends : endsTurn i τ = false := by
    rw [endsTurn, hturn]
    rfl
  have hturns : streamTurns i (run ++ [τ]) = streamTurns i run := by
    rw [streamTurns_concat, hturn]
    exact List.append_nil _
  have hobserver : (streamObserver i x (run ++ [τ])).pending = (streamObserver i x run).pending ∧
      (streamObserver i x (run ++ [τ])).handed = (streamObserver i x run).handed := by
    rw [streamObserver, observed_concat, Observer.see, hends, hreads]
    exact ⟨List.append_nil _, rfl⟩
  exact {
    thread := hthread
    calls := hcalls
    stage := hstage
    covers := h.covers
    pending := by rw [hobserver.1, h.pending]
    shown := by rw [hturns, hobserver.2, h.shown]
    printable := by
      rw [hturns]
      exact h.printable }

/-- A section of another thread, or a call, is no section of the loop. -/
theorem streamTurn?_of_run {j : Nat} {input : Input} {s : Section c}
    (haction : τ.action = .run j input) (hhead : τ.head? = some s)
    (hother : j ≠ i ∨ s.isCall = true) :
    streamTurn? i τ = none ∧ readsEntry i x τ = false := by
  unfold streamTurn? readsEntry
  rw [haction, hhead]
  rcases hother with hne | hcall
  · cases s <;> simp [hne]
  · cases s <;> first | exact ⟨rfl, rfl⟩ | contradiction

/-- The reading of a feature is about to be shown. -/
theorem Streaming.read {input : Input} {r : c.Ref}
    (h : Streaming i client x run τ.source [] (.summaryEntry x.session client true r left entries)
      (r :: left) entries)
    (haction : τ.action = .run i input)
    (hthread : τ.target.threads i = [.summary x.session client true left
      (entries ++ [(r, τ.source.shared.execution ⟨x.session, r⟩)])]) :
    Streaming i client x (run ++ [τ]) τ.target []
      (.summary x.session client true left
        (entries ++ [(r, τ.source.shared.execution ⟨x.session, r⟩)])) left
      (entries ++ [(r, τ.source.shared.execution ⟨x.session, r⟩)]) := by
  have hhead : τ.head? = some (.summaryEntry x.session client true r left entries) :=
    System.head?_of_run haction h.thread
  have hturn : streamTurn? i τ = none := by
    rw [streamTurn?, haction, hhead]
  have hends : endsTurn i τ = false := by
    rw [endsTurn, hturn]
    rfl
  have hreads : readsEntry i x τ = decide (r = x.feature) := by
    rw [readsEntry, haction, hhead]
    simp
  have hturns : streamTurns i (run ++ [τ]) = streamTurns i run := by
    rw [streamTurns_concat, hturn]
    exact List.append_nil _
  have hhanded : (streamObserver i x (run ++ [τ])).handed = (streamObserver i x run).handed := by
    rw [streamObserver, observed_concat, Observer.see, hends]
    rfl
  refine ⟨hthread, List.forall_mem_nil _, .summary _ _, ?_, ?_, ?_, ?_⟩
  · rw [List.map_append, List.append_assoc]
    exact h.covers
  · rw [streamObserver, observed_concat, Observer.see, hends, hreads]
    rw [List.map_append, List.filter_append, List.map_append, ← h.pending]
    by_cases hr : r = x.feature
    · rw [hr]
      simp [featureState, streamObserver]
    · simp [hr, streamObserver]
  · rw [hturns, hhanded]
    exact h.shown
  · rw [hturns]
    exact h.printable

/-- At the end of a turn the client is shown what has been read in it. -/
theorem Streaming.write {input : Input} {sessionId : CppString}
    (h : Streaming i client x run τ.source []
      (.writeEvent x.session client (summaryJson sessionId entries)) [] entries)
    (haction : τ.action = .run i input)
    (hthread : τ.target.threads i =
      [.summary x.session client true (List.finRange c.features.length) []]) :
    Streaming i client x (run ++ [τ]) τ.target []
      (.summary x.session client true (List.finRange c.features.length) [])
      (List.finRange c.features.length) [] := by
  have hhead : τ.head? = some (.writeEvent x.session client (summaryJson sessionId entries)) :=
    System.head?_of_run haction h.thread
  have hturn : streamTurn? i τ = some (summaryJson sessionId entries, input.now) := by
    rw [streamTurn?, haction, hhead]
    exact if_pos rfl
  have hends : endsTurn i τ = true := by
    rw [endsTurn, hturn]
    rfl
  have hreads : readsEntry i x τ = false := by
    rw [readsEntry, haction, hhead]
  have hturns : streamTurns i (run ++ [τ]) =
      streamTurns i run ++ [(summaryJson sessionId entries, input.now)] := by
    rw [streamTurns_concat, hturn]
    rfl
  rcases featureStateFromSummary_summaryJson sessionId (by simpa using h.covers) x.feature with
    ⟨e, hentry, hstate⟩
  refine ⟨hthread, List.forall_mem_nil _, .summary _ _, rfl, ?_, ?_, ?_⟩
  · rw [streamObserver, observed_concat, Observer.see, hends, hreads]
    rfl
  · have hpending : (streamObserver i x run).pending.map Prod.snd = [e.state] := by
      rw [h.pending, hentry]
      rfl
    have hhanded : (streamObserver i x (run ++ [τ])).handed =
        (streamObserver i x run).handed ++ (streamObserver i x run).pending := by
      rw [streamObserver, observed_concat, Observer.see, hends]
      rfl
    rw [hturns, hhanded, List.map_append, List.map_append, hpending, List.map_append, h.shown,
      List.map_singleton, hstate]
    rfl
  · intro turn hmem
    rw [hturns] at hmem
    rcases List.mem_append.mp hmem with hold | hnew
    · exact h.printable turn hold
    · rw [List.mem_singleton.mp hnew]
      exact summaryJson_printable sessionId entries

/-- A step keeps the thread in its loop, unless a write fails. -/
theorem Streaming.step (h : Streaming i client x run τ.source calls stage left entries)
    (hstep : (server host).step τ.source τ.action = some τ.target)
    (hwritten : endsTurn i τ = true → written τ = true) :
    ∃ calls' stage' left' entries',
      Streaming i client x (run ++ [τ]) τ.target calls' stage' left' entries' := by
  have hi : i < τ.source.count := by
    refine Pool.lt_count_of_mem (s := stage) ?_
    rw [h.thread]
    exact List.mem_append_right _ (List.mem_singleton_self stage)
  rcases server_step_cases hstep with ⟨request, haction, htarget⟩ |
    ⟨j, input, s, rest, hj, haction, hhead, htarget⟩
  · have hnone : streamTurn? i τ = none ∧ readsEntry i x τ = false := by
      rw [streamTurn?, readsEntry, haction]
      exact ⟨rfl, rfl⟩
    have hthread : τ.target.threads i = τ.source.threads i := by
      rw [htarget]
      exact Pool.threads_launch_of_lt hi
    exact ⟨calls, stage, left, entries,
      h.idle hnone.1 hnone.2 (hthread.trans h.thread) h.calls h.stage⟩
  · have hτ : τ.head? = some s := System.head?_of_run haction hhead
    by_cases hji : j = i
    · subst hji
      have hnext : τ.target.threads j = (exec host τ.source.shared s input).next ++ rest := by
        rw [htarget, Pool.threads_advance_self]
      rw [h.thread] at hhead
      cases calls with
      | cons call calls =>
          rcases List.cons.inj hhead with ⟨rfl, rfl⟩
          have hnone : streamTurn? j τ = none ∧ readsEntry j x τ = false :=
            streamTurn?_of_run haction hτ (Or.inr (h.calls call List.mem_cons_self))
          refine ⟨_, stage, left, entries,
            h.idle hnone.1 hnone.2 (hnext.trans (List.append_assoc ..).symm) ?_ h.stage⟩
          intro t ht
          rcases List.mem_append.mp ht with ht | ht
          · exact exec_next_of_isCall (h.calls call List.mem_cons_self) ht
          · exact h.calls t (List.mem_cons_of_mem _ ht)
      | nil =>
          rcases List.cons.inj hhead with ⟨rfl, rfl⟩
          rw [List.append_nil] at hnext
          cases h.stage with
          | summary left entries =>
              have hnone : streamTurn? j τ = none ∧ readsEntry j x τ = false := by
                rw [streamTurn?, readsEntry, haction, hτ]
                exact ⟨rfl, rfl⟩
              cases left with
              | nil =>
                  exact ⟨[], _, [], entries, h.idle hnone.1 hnone.2 hnext (List.forall_mem_nil _)
                    (.event _ entries)⟩
              | cons r left =>
                  exact ⟨[.maybeTimeout ⟨x.session, r⟩], _, r :: left, entries,
                    h.idle hnone.1 hnone.2 hnext (by simp [Section.isCall]) (.entry r left entries)⟩
          | entry r left entries => exact ⟨[], _, left, _, h.read haction hnext⟩
          | event sessionId entries =>
              have hturn : endsTurn j τ = true := by
                rw [endsTurn, streamTurn?, haction, hτ]
                exact congrArg Option.isSome (if_pos rfl)
              have hgoes : input.written = true := by
                have harrives := hwritten hturn
                rwa [written, haction] at harrives
              refine ⟨[], _, _, [], h.write haction (hnext.trans ?_)⟩
              rw [exec, if_pos hgoes]
    · have hnone : streamTurn? i τ = none ∧ readsEntry i x τ = false :=
        streamTurn?_of_run haction hτ (Or.inl hji)
      have hthread : τ.target.threads i = τ.source.threads i := by
        rw [htarget]
        exact Pool.threads_advance_of_ne _ _ hj _ _ (Ne.symm hji) hi
      exact ⟨calls, stage, left, entries,
        h.idle hnone.1 hnone.2 (hthread.trans h.thread) h.calls h.stage⟩

end

/-! ## Runs with a stream -/

section

variable {before mid last : ServerState c} {x : Target c} {run : List (ServerTransition c)}

/-- In every run in which the client stays connected, it has been shown just what an
observer of its thread has handed over. -/
theorem stream_observed
    (harrive : (server host).step before (.arrive (.summaryStream x.session)) = some mid)
    (hrun : ServerRun host mid run last)
    (hwritten : ∀ τ ∈ run, endsTurn before.count τ = true → written τ = true) :
    ∃ client calls stage left entries,
      Streaming before.count client x run last calls stage left entries := by
  refine ⟨before.shared.descriptors.lowestFree, Run.history (I := fun run p =>
    (∀ τ ∈ run, endsTurn before.count τ = true → written τ = true) →
      ∃ calls stage left entries, Streaming before.count _ x run p calls stage left entries)
    ?_ hrun ?_ hwritten⟩
  · intro front τ _ hstep ih hall
    rcases ih fun σ hσ => hall σ (List.mem_append_left _ hσ) with ⟨calls, stage, left, entries, h⟩
    exact h.step hstep (hall τ (List.mem_append_right _ (List.mem_singleton_self τ)))
  · intro _
    have hmid := Option.some.inj harrive
    refine ⟨[], _, _, [], ?_, List.forall_mem_nil _, .summary _ _, rfl, rfl, rfl,
      List.forall_mem_nil _⟩
    rw [← hmid]
    exact Pool.threads_launch_count

/-- A client sees a sequence of states without repetitions just when the observer of the
stream has handed it over. -/
theorem sublist_streamedStates_observed
    (harrive : (server host).step before (.arrive (.summaryStream x.session)) = some mid)
    (hrun : ServerRun host mid run last)
    (hwritten : ∀ τ ∈ run, endsTurn before.count τ = true → written τ = true)
    (connected : TimePoint) {chain : List FeatureState} (hchain : chain.IsChain (· ≠ ·)) :
    chain.Sublist (streamedStates (c.id x.feature)
        (summaryStreamBody connected (streamTurns before.count run))) ↔
      chain.Sublist ((streamObserver before.count x run).handed.map Prod.snd) := by
  rcases stream_observed harrive hrun hwritten with ⟨client, calls, stage, left, entries, h⟩
  exact sublist_streamedStates_iff h.printable h.shown hchain

/-- For every run in which a client of the stream stays connected and every interleaving
of it: the client sees the feature in all the states that it goes through, in order, if
and only if after each number of changes the loop reads the feature for a turn that it
ends. -/
theorem stream_shows_course_iff (host : Host) {before mid last : ServerState c} {x : Target c}
    {run : List (ServerTransition c)}
    (harrive : (server host).step before (.arrive (.summaryStream x.session)) = some mid)
    (hrun : ServerRun host mid run last)
    (hwritten : ∀ τ ∈ run, endsTurn before.count τ = true → written τ = true)
    (connected : TimePoint) :
    (course (featureState x) mid run).Sublist (streamedStates (c.id x.feature)
        (summaryStreamBody connected (streamTurns before.count run))) ↔
      ∀ k ≤ changeCount (featureState x) run,
        Sampled (featureState x) (readsEntry before.count x) (endsTurn before.count) k run := by
  rw [sublist_streamedStates_observed harrive hrun hwritten connected
    (isChain_course (featureState x) hrun)]
  exact course_sublist_handed_iff hrun

end

/-! ## A slow feature and a quick one -/

/-- A client of the stream of a fresh session. -/
def streamOpened : ServerState sampleCatalog :=
  (sampleStart.withShared (arrive sampleShared (.summaryStream 0)).1).launch
    (arrive sampleShared (.summaryStream 0)).2

/-- A turn of the loop, section by section. -/
def streamTurnActions : List (ServerAction sampleCatalog) :=
  List.replicate 17 (.run 0 {})

/-- The feature is started, and reported complete after `between`. -/
def featureAround (between : List (ServerAction sampleCatalog)) :
    List (ServerAction sampleCatalog) :=
  streamTurnActions ++ [.arrive (.feature socketCreate .start)] ++ List.replicate 11 (.run 1 {}) ++
    between ++ [.arrive (.feature socketCreate (.complete (str "\x7b\x7d")))] ++
    List.replicate 7 (.run 2 {}) ++ streamTurnActions

/-- The run, with what happens in between. -/
def featureRun (between : List (ServerAction sampleCatalog)) :
    List (ServerTransition sampleCatalog) :=
  record (server sampleHost).step streamOpened (featureAround between)

/-- If the loop makes a turn while the feature is active, the client sees all its states. -/
theorem stream_shows_course_iff_slow :
    (course (featureState socketCreate) streamOpened (featureRun streamTurnActions)).Sublist
      (streamedStates (sampleCatalog.id socketCreate.feature)
        (summaryStreamBody 0 (streamTurns 0 (featureRun streamTurnActions)))) := by
  have harrive : (server sampleHost).step sampleStart
      (.arrive (.summaryStream socketCreate.session)) = some streamOpened := rfl
  have hrun : ∃ last, ServerRun sampleHost streamOpened (featureRun streamTurnActions) last ∧
      featureState socketCreate last = .passed := exists_run (by decide)
  have hwritten : ∀ τ ∈ featureRun streamTurnActions, endsTurn 0 τ = true → written τ = true := by
    decide
  have hsampled : changeCount (featureState socketCreate) (featureRun streamTurnActions) = 2 ∧
      ∀ k ≤ 2, k ∈ (streamObserver 0 socketCreate (featureRun streamTurnActions)).handed.map
        Prod.fst := by
    decide
  rcases hrun with ⟨last, hrun, -⟩
  refine (stream_shows_course_iff sampleHost harrive hrun hwritten 0).mpr fun k hk => ?_
  rw [hsampled.1] at hk
  exact (mem_handed_iff _).mp (hsampled.2 k hk)

/-- A feature that is started and reported complete between two turns is never shown to be
active, although the client stays connected all the time and the next turn shows it
passed. -/
theorem quick_feature_not_shown :
    ¬∀ (c : Catalog) (host : Host) (start before mid last : ServerState c)
        (front run : List (ServerTransition c)) (x : Target c) (connected : TimePoint),
      Initial start → ServerRun host start front before → featureState x before = .pending →
      (server host).step before (.arrive (.summaryStream x.session)) = some mid →
      ServerRun host mid run last →
      (∀ τ ∈ run, endsTurn before.count τ = true → written τ = true) →
      (featureState x last).Terminal →
      (course (featureState x) mid run).Sublist (streamedStates (c.id x.feature)
        (summaryStreamBody connected (streamTurns before.count run))) := by
  intro hclaim
  have harrive : (server sampleHost).step sampleStart
      (.arrive (.summaryStream socketCreate.session)) = some streamOpened := rfl
  have hrun : ∃ last, ServerRun sampleHost streamOpened (featureRun []) last ∧
      (featureState socketCreate last).Terminal := exists_run (by decide)
  have hwritten : ∀ τ ∈ featureRun [], endsTurn 0 τ = true → written τ = true := by
    decide
  have hcourse : course (featureState socketCreate) streamOpened (featureRun []) =
        [.pending, .active, .passed] ∧
      (streamObserver 0 socketCreate (featureRun [])).handed.map Prod.snd = [.pending, .passed] := by
    decide
  rcases hrun with ⟨last, hrun, hterminal⟩
  have hshown := hclaim sampleCatalog sampleHost sampleStart sampleStart streamOpened last []
    (featureRun []) socketCreate 0 sampleStart_initial (.nil _) rfl harrive hrun hwritten hterminal
  have hhanded := (sublist_streamedStates_observed harrive hrun hwritten 0
    (isChain_course (featureState socketCreate) hrun)).mp hshown
  rw [hcourse.1, show (streamObserver sampleStart.count socketCreate (featureRun [])).handed.map
    Prod.snd = [.pending, .passed] from hcourse.2] at hhanded
  exact absurd hhanded (by decide)

end SctpConformance
