import SctpConformance.Json.Kept
import SctpConformance.Server.Concurrent

/-!
# The texts that the server keeps

Strings reach the records of a session from the catalog, from the host and from the
reports of clients, and every response is written from these records.  A section that
stores only texts in UTF-8 leaves a state from which only valid bodies can be written.

Main results:

- Definitions `Shared.Readable` and `Section.Readable`: the state, and what a section
  still carries, is in UTF-8.
- Definition `Section.KeepsUtf8`: a report that is accepted leaves only UTF-8 behind.
- Theorem `exec_readable`: such sections keep the state readable and send valid bodies.
-/

namespace SctpConformance

open Library

/-! ## Records -/

namespace FeatureExecution

variable {e e' : FeatureExecution} {feature : FeatureDefinition}

/-- The texts of an execution, and its contract. -/
theorem readable_iff : e.Readable ↔
    (IsUtf8 e.message ∧ IsUtf8 e.evidenceKind ∧ IsUtf8 e.evidenceText ∧ IsUtf8 e.reportText ∧
      AllUtf8 e.assocIds) ∧ ReadableContract e.contractJson := by
  constructor
  · intro h
    have htexts := h.texts
    simp only [FeatureExecution.texts, allUtf8_append, allUtf8_cons, allUtf8_nil, and_true] at htexts
    exact ⟨⟨htexts.1.1, htexts.1.2.1, htexts.1.2.2.1, htexts.1.2.2.2, htexts.2⟩, h.contract⟩
  · rintro ⟨⟨hmessage, hkind, htext, hreport, hids⟩, hcontract⟩
    refine ⟨?_, hcontract⟩
    simp [FeatureExecution.texts, hmessage, hkind, htext, hreport, hids]

/-- A record that nothing has been stored in. -/
theorem readable_default : Readable {} := by
  rw [readable_iff]
  simp [ReadableContract, isUtf8_nil]

/-- Descriptors are never written. -/
theorem Readable.withFds (h : e.Readable) (fds : List Nat) :
    Readable { e with activeFds := fds } :=
  ⟨h.texts, h.contract⟩

/-- An activation keeps an execution readable. -/
theorem Readable.activate (h : e.Readable) (now : TimePoint) :
    (e.activate feature now).Readable := by
  rw [readable_iff] at h ⊢
  refine ⟨⟨?_, h.1.2⟩, h.2⟩
  unfold FeatureExecution.activate
  dsimp only
  split <;> exact isUtf8_str _

/-- So does a deadline that has passed. -/
theorem Readable.timeOut (h : e.Readable) {now finished : TimePoint}
    (he : e.timeOut now finished = some e') : e'.Readable := by
  rcases timeOut_eq_some_iff.mp he with ⟨-, -, rfl⟩
  rw [readable_iff] at h ⊢
  exact ⟨⟨isUtf8_str _, h.1.2⟩, h.2⟩

/-- So does a failure with a readable message. -/
theorem Readable.fail (h : e.Readable) {message : CppString} (hmessage : IsUtf8 message)
    {now : TimePoint} (he : e.fail message now = some e') : e'.Readable := by
  rcases fail_eq_some_iff.mp he with ⟨-, rfl⟩
  rw [readable_iff] at h ⊢
  exact ⟨⟨hmessage, h.1.2⟩, h.2⟩

/-- So does the observation of the server. -/
theorem Readable.observe (h : e.Readable) {now : TimePoint} {finished : Bool}
    (he : e.observe feature now = some (e', finished)) : e'.Readable := by
  rw [readable_iff] at h ⊢
  unfold FeatureExecution.observe at he
  split at he
  · contradiction
  · split at he
    · cases he
      exact ⟨⟨isUtf8_str _, h.1.2⟩, h.2⟩
    · cases he
      exact ⟨⟨isUtf8_str _, h.1.2⟩, h.2⟩

/-- So does the adjustment of the message. -/
theorem Readable.adjustMessage (h : e.Readable) : (e.adjustMessage feature).Readable := by
  unfold FeatureExecution.adjustMessage
  split
  · rw [readable_iff] at h ⊢
    exact ⟨⟨isUtf8_str _, h.1.2⟩, h.2⟩
  · exact h

end FeatureExecution

/-! ## Reports -/

/-- The strings of a complete report that the record of the feature takes over. -/
def CompleteReport.kept (report : CompleteReport) (feature : FeatureDefinition) : List CppString :=
  [report.evidenceKind, report.evidenceText, report.reportText] ++
    if feature.distinctAssocIds.isSome then report.assocIds else []

/-- What is kept of a report is UTF-8 if the report is. -/
theorem CompleteReport.kept_utf8 {report : CompleteReport} (h : AllUtf8 report.texts)
    (feature : FeatureDefinition) : AllUtf8 (report.kept feature) := by
  simp only [CompleteReport.texts, allUtf8_append] at h
  unfold CompleteReport.kept
  split
  · exact allUtf8_append.mpr h
  · exact allUtf8_append.mpr ⟨h.1, allUtf8_nil⟩

namespace FeatureExecution

variable {e e' : FeatureExecution} {feature : FeatureDefinition}

/-- A report of success keeps an execution readable. -/
theorem Readable.complete (h : e.Readable) {report : CompleteReport}
    (hreport : AllUtf8 (report.kept feature)) {now : TimePoint} {finished : Bool}
    (he : e.complete feature report now = .ok (e', finished)) : e'.Readable := by
  rw [readable_iff] at h ⊢
  simp only [CompleteReport.kept, allUtf8_append, allUtf8_cons, allUtf8_nil, and_true] at hreport
  have hids : AllUtf8 (if feature.distinctAssocIds.isSome = true then report.assocIds
      else e.assocIds) := by
    split
    · rename_i hsome
      rw [if_pos hsome] at hreport
      exact hreport.2
    · exact h.1.2.2.2.2
  unfold FeatureExecution.complete at he
  split at he
  · contradiction
  · split at he
    · contradiction
    · split at he
      · contradiction
      · dsimp only at he
        split at he
        · cases he
          exact ⟨⟨isUtf8_str _, hreport.1.1, hreport.1.2.1, hreport.1.2.2, hids⟩, h.2⟩
        · cases he
          exact ⟨⟨isUtf8_str _, hreport.1.1, hreport.1.2.1, hreport.1.2.2, hids⟩, h.2⟩

/-- So does a report of missing support. -/
theorem Readable.markUnsupported (h : e.Readable) {report : UnsupportedReport}
    (hreport : AllUtf8 report.texts) {now : TimePoint}
    (he : e.markUnsupported report now = .ok e') : e'.Readable := by
  rcases markUnsupported_accepted he with ⟨-, rfl⟩
  rw [readable_iff] at h ⊢
  simp only [UnsupportedReport.texts, allUtf8_cons, allUtf8_nil, and_true] at hreport
  exact ⟨⟨hreport.1, hreport.2.1, hreport.2.2, h.1.2.2.2⟩, h.2⟩

/-- The refusals of a complete report are literals. -/
theorem complete_error_utf8 {report : CompleteReport} {now : TimePoint} {status : Nat}
    {message : CppString} (he : e.complete feature report now = .error (status, message)) :
    IsUtf8 message := by
  unfold FeatureExecution.complete at he
  split at he
  · cases he
    exact isUtf8_str _
  · split at he
    · cases he
      exact isUtf8_str _
    · split at he
      · rename_i hids
        cases he
        rcases Option.bind_eq_some_iff.mp hids with ⟨contract, -, herror⟩
        unfold assocIdsError at herror
        split at herror
        · cases herror
          exact isUtf8_str _
        · dsimp only at herror
          split at herror
          · cases herror
            exact isUtf8_str _
          · contradiction
      · dsimp only at he
        split at he
        · contradiction
        · contradiction

/-- The error for a report that is refused is UTF-8. -/
theorem markUnsupported_error_utf8 {report : UnsupportedReport} {now : TimePoint} {status : Nat}
    {message : CppString} (he : e.markUnsupported report now = .error (status, message)) :
    IsUtf8 message := by
  unfold FeatureExecution.markUnsupported at he
  split at he
  · cases he
    exact isUtf8_str _
  · split at he
    · cases he
      exact isUtf8_str _
    · contradiction

end FeatureExecution

/-! ## The host -/

/-- The addresses on the command line and the texts of the C library are in UTF-8. -/
structure Host.Utf8 (host : Host) : Prop where
  bindAddrs : AllUtf8 host.options.sctpBindAddrs
  advertiseAddrs : AllUtf8 host.options.sctpAdvertiseAddrs
  strerror : ∀ errno, IsUtf8 (host.strerror errno)

/-- One of such texts is UTF-8, and so is the empty one. -/
theorem AllUtf8.getD {texts : List CppString} (h : AllUtf8 texts) (i : Nat) :
    IsUtf8 (texts.getD i []) := by
  rw [List.getD_eq_getElem?_getD]
  cases hi : texts[i]? with
  | none => exact isUtf8_nil
  | some text => exact h text (List.mem_of_getElem? hi)

/-- So are the first of such texts. -/
theorem AllUtf8.take {texts : List CppString} (h : AllUtf8 texts) (n : Nat) :
    AllUtf8 (texts.take n) := by
  intro text htext
  exact h text (List.mem_of_mem_take htext)

/-- The error for too few addresses is UTF-8. -/
theorem addressCountError_utf8 {options : ServerOptions} {bindCount : Nat} {error : CppString}
    (h : addressCountError options bindCount = some error) : IsUtf8 error := by
  have hmessage : ∀ rest, IsUtf8 (str "feature requires " ++ decimal bindCount ++ str rest) :=
    fun rest => ((isUtf8_str _).append (isUtf8_decimal _)).append (isUtf8_str _)
  unfold addressCountError at h
  split at h
  · cases h
    exact hmessage _
  · split at h
    · cases h
      exact hmessage _
    · contradiction

namespace Host.Utf8

variable {host : Host} (hhost : host.Utf8)
include hhost

/-- The addresses that clients are told are UTF-8. -/
theorem advertiseList : AllUtf8 (SctpConformance.advertiseList host.options) := by
  unfold SctpConformance.advertiseList
  split
  · exact hhost.bindAddrs
  · exact hhost.advertiseAddrs

/-- The error of a failed bind is UTF-8. -/
theorem bindError (errno : Errno) {address : CppString} (haddress : IsUtf8 address) :
    IsUtf8 (bindError host errno address) := by
  unfold SctpConformance.bindError
  split
  · unfold missingBindMessage
    split
    · exact (isUtf8_str _).append (isUtf8_str _)
    · exact (((isUtf8_str _).append haddress).append (isUtf8_str _)).append (isUtf8_str _)
  · exact hhost.strerror errno

/-- The error of `create_listening_socket`. -/
theorem setup_error {bindCount fd : Nat} {calls : SetupCalls} {error : CppString}
    (h : setupListeningSocket host bindCount fd calls = .error error) : IsUtf8 error := by
  unfold setupListeningSocket at h
  dsimp only at h
  split at h
  · cases h
    exact hhost.strerror _
  · split at h
    · rename_i addr hfind
      cases h
      have hmem := List.mem_of_find?_eq_some hfind
      exact (isUtf8_str _).append (hhost.bindAddrs.take bindCount addr hmem)
    · split at h
      · cases h
        exact hhost.bindError _ (hhost.bindAddrs.getD 0)
      · split at h
        · cases h
          exact hhost.strerror _
        · split at h
          · cases h
            exact hhost.bindError _ (hhost.bindAddrs.getD 1)
          · split at h
            · cases h
              exact hhost.strerror _
            · split at h
              · cases h
                exact hhost.strerror _
              · contradiction

/-- The addresses of a socket that comes out. -/
theorem setup_addresses {bindCount fd : Nat} {calls : SetupCalls} {socketInfo : ListeningSocket}
    (h : setupListeningSocket host bindCount fd calls = .ok socketInfo) :
    AllUtf8 socketInfo.advertiseAddrs := by
  have hport : ∀ port, AllUtf8
      (withPort ((SctpConformance.advertiseList host.options).take bindCount) port) := by
    intro port text htext
    rcases List.mem_map.mp htext with ⟨addr, haddr, rfl⟩
    have hutf8 := hhost.advertiseList.take bindCount addr haddr
    exact (hutf8.append (IsUtf8.cons (by decide) isUtf8_nil)).append (isUtf8_decimal _)
  unfold setupListeningSocket at h
  dsimp only at h
  repeat' split at h
  all_goals first | contradiction | skip
  cases h
  exact hport _

end Host.Utf8

/-! ## Workers -/

/-- The message that a worker ends in is in UTF-8. -/
def WorkerStep.Readable : WorkerStep → Prop
  | .markFailed message => IsUtf8 message
  | _ => True

/-- The messages of a worker that receives are UTF-8. -/
theorem receiveLoop_readable (fd : Nat) (expected : List MessageSpec)
    (expectedPeerAddrCount matched : Nat) (checkedPeerAddrs : Bool) :
    (receiveLoop fd expected expectedPeerAddrCount matched checkedPeerAddrs).Readable := by
  unfold receiveLoop
  split <;> exact trivial

/-- So are those of a worker for several targets. -/
theorem receiveMultiTargetLoop_readable (fds : List Nat) (expected : List MessageSpec) (i : Nat) :
    (receiveMultiTargetLoop fds expected i).Readable := by
  unfold receiveMultiTargetLoop
  split <;> exact trivial

/-- So are those of a worker that sends. -/
theorem sendLoop_readable (fd : Nat) (assocId : UInt32) (messages : List MessageSpec) :
    (sendLoop fd assocId messages).Readable := by
  cases messages <;> exact trivial

/-- So are those of a worker that starts. -/
theorem Worker.start_readable (worker : Worker) : worker.start.Readable := by
  cases worker with
  | receive fd expected count => exact receiveLoop_readable _ _ _ _ _
  | prReceive fd expected =>
      simp only [Worker.start]
      split
      · exact isUtf8_str _
      · exact trivial
  | receiveMultiTarget fds expected =>
      simp only [Worker.start]
      split
      · exact isUtf8_str _
      · exact receiveMultiTargetLoop_readable _ _ _
  | sendAfterTrigger fd trigger messages => exact trivial

section

variable {host : Host} (hhost : host.Utf8) {featureId : CppString}
include hhost

/-- The message for a failed call is UTF-8. -/
theorem receiveError_readable (timeoutText : String) (errno : Errno) :
    (receiveError host timeoutText errno).Readable := by
  change IsUtf8 (if errno = .ewouldblock ∨ errno = .eagain then str timeoutText
    else host.strerror errno)
  split
  · exact isUtf8_str _
  · exact hhost.strerror errno

omit hhost in

/-- The message for a wrong payload, stream or PPID is UTF-8. -/
theorem mismatch_utf8 (hid : IsUtf8 featureId) {expected : MessageSpec} {payload : CppString}
    {stream : UInt16} {ppid : UInt32} {message : CppString}
    (h : mismatch featureId expected payload stream ppid = some message) : IsUtf8 message := by
  unfold mismatch at h
  split at h
  · cases h
    exact (isUtf8_str _).append hid
  · split at h
    · cases h
      exact isUtf8_str _
    · split at h
      · cases h
        exact isUtf8_str _
      · contradiction

/-- What a worker does with a received message is readable. -/
theorem WorkerState.onReceive_readable (hid : IsUtf8 featureId) (state : WorkerState)
    (outcome : ReceiveOutcome) : (state.onReceive host featureId outcome).Readable := by
  cases state with
  | receive fd expected count matched checked =>
      cases outcome with
      | error errno => exact receiveError_readable hhost _ errno
      | notification => exact trivial
      | data payload stream ppid assocId eor peerAddrs =>
          simp only [WorkerState.onReceive]
          split
          · rename_i message hmismatch
            exact mismatch_utf8 hid hmismatch
          · split
            · split
              · exact isUtf8_str _
              · exact receiveLoop_readable _ _ _ _ _
            · exact receiveLoop_readable _ _ _ _ _
  | prReceive fd expected sawSkipped sawFinal =>
      cases outcome with
      | error errno =>
          simp only [WorkerState.onReceive]
          split
          · split
            · exact isUtf8_str _
            · exact trivial
          · exact receiveError_readable hhost _ errno
      | notification => exact trivial
      | data payload stream ppid assocId eor peerAddrs =>
          simp only [WorkerState.onReceive]
          split
          · exact trivial
          · split
            · exact trivial
            · exact isUtf8_str _
  | receiveMultiTarget fds expected i =>
      cases outcome with
      | error errno => exact receiveError_readable hhost _ errno
      | notification => exact trivial
      | data payload stream ppid assocId eor peerAddrs =>
          simp only [WorkerState.onReceive]
          split
          · rename_i message hmismatch
            exact mismatch_utf8 hid hmismatch
          · exact receiveMultiTargetLoop_readable _ _ _
  | awaitTrigger fd trigger messages =>
      cases outcome with
      | error errno => exact receiveError_readable hhost _ errno
      | notification => exact trivial
      | data payload stream ppid assocId eor peerAddrs =>
          simp only [WorkerState.onReceive]
          split
          · exact isUtf8_str _
          · exact sendLoop_readable _ _ _
  | sendMessages fd assocId messages => exact trivial

/-- So is what it does after a send. -/
theorem WorkerState.onSend_readable (state : WorkerState) (outcome : SendOutcome) :
    (state.onSend host outcome).Readable := by
  cases state with
  | sendMessages fd assocId messages =>
      cases outcome with
      | none => exact sendLoop_readable _ _ _
      | some errno => exact hhost.strerror errno
  | _ => exact trivial

end

/-! ## The shared state and the sections -/

variable {c : Catalog}

/-- The texts of a session. -/
def Session.texts (session : Session c) : List CppString :=
  [session.id, session.agentName, session.environmentName, session.activeFeatureId]

/-- The texts of a session and of its executions are UTF-8. -/
structure Session.Readable (session : Session c) : Prop where
  texts : AllUtf8 session.texts
  features : ∀ r, (session.features r).Readable

/-- Everything that is kept can be written. -/
def Shared.Readable (σ : Shared c) : Prop :=
  ∀ session, (σ.sessions session).Readable

/-- What a section carries can be written. -/
def Section.Readable : Section c → Prop
  | .openSocket _ sockets => ∀ socketInfo ∈ sockets, AllUtf8 socketInfo.advertiseAddrs
  | .setupSocket _ sockets _ => ∀ socketInfo ∈ sockets, AllUtf8 socketInfo.advertiseAddrs
  | .activate _ sockets => ∀ socketInfo ∈ sockets, AllUtf8 socketInfo.advertiseAddrs
  | .setActiveFds _ sockets => ∀ socketInfo ∈ sockets, AllUtf8 socketInfo.advertiseAddrs
  | .setActiveFeature _ sockets => ∀ socketInfo ∈ sockets, AllUtf8 socketInfo.advertiseAddrs
  | .launchWorker _ sockets => ∀ socketInfo ∈ sockets, AllUtf8 socketInfo.advertiseAddrs
  | .setContract _ contract => ReadableContract contract
  | .summary _ _ _ _ entries => ∀ entry ∈ entries, entry.2.Readable
  | .summaryEntry _ _ _ _ _ entries => ∀ entry ∈ entries, entry.2.Readable
  | .writeEvent _ _ event => ValidJson event
  | .respond _ response =>
      response.contentType = str "application/json" → ValidJson response.body
  | .markFailed _ message => IsUtf8 message
  | _ => True

/-- A report that is accepted leaves only UTF-8 behind. -/
def Section.KeepsUtf8 (σ : Shared c) (input : Input) : Section c → Prop
  | .complete h body =>
      let feature := c.definition h.target.feature
      ∀ report accepted, parseCompleteReport body = .ok report →
        (σ.execution h.target).complete feature report input.now = .ok accepted →
          AllUtf8 (report.kept feature)
  | .unsupported h body =>
      ∀ report accepted, parseUnsupportedReport body = .ok report →
        (σ.execution h.target).markUnsupported report input.now = .ok accepted →
          AllUtf8 report.texts
  | _ => True

namespace Shared.Readable

variable {σ : Shared c} (hσ : σ.Readable)
include hσ

/-- Each execution is readable. -/
theorem execution (x : Target c) : (σ.execution x).Readable :=
  (hσ x.session).features x.feature

/-- A readable execution can take the place of one. -/
theorem setExecution (x : Target c) {e : FeatureExecution} (he : e.Readable) :
    (σ.setExecution x e).Readable := by
  intro session
  by_cases hsession : session = x.session
  · subst hsession
    simp only [Shared.setExecution, Function.update_self]
    refine ⟨(hσ x.session).texts, ?_⟩
    intro r
    by_cases hr : r = x.feature
    · subst hr
      simpa only [Function.update_self] using he
    · simpa only [Function.update_of_ne hr] using (hσ x.session).features r
  · simpa only [Shared.setExecution, Function.update_of_ne hsession] using hσ session

/-- So can the identifier of the active feature. -/
theorem setActiveId (session : Nat) {id : CppString} (hid : IsUtf8 id) :
    (σ.setActiveId session id).Readable := by
  intro session'
  by_cases hsession : session' = session
  · subst hsession
    simp only [Shared.setActiveId, Function.update_self]
    have htexts := (hσ session').texts
    simp only [Session.texts, allUtf8_cons, allUtf8_nil, and_true] at htexts
    refine ⟨?_, (hσ session').features⟩
    simp [Session.texts, htexts, hid]
  · simpa only [Shared.setActiveId, Function.update_of_ne hsession] using hσ session'

end Shared.Readable

/-! ## What sections carry on -/

/-- An error can be answered. -/
theorem readable_respond_error (client status : Nat) {message : CppString} (h : IsUtf8 message) :
    (Section.respond client (errorResponse status message) : Section c).Readable :=
  fun _ => jsonError_valid h

/-- The sections that finish a feature store no texts. -/
theorem readable_finish (x : Target c) : ∀ s ∈ finish x, s.Readable := by
  intro s hs
  simp only [finish, List.mem_cons, List.not_mem_nil, or_false] at hs
  rcases hs with rfl | rfl <;> exact trivial

/-- The sections after a failed start answer with the error. -/
theorem readable_rollback (h : Handler c) (fds : List Nat) {error : CppString}
    (herror : IsUtf8 error) : ∀ s ∈ rollback h fds error, s.Readable := by
  intro s hs
  rcases List.mem_append.mp hs with hclose | hrespond
  · rcases List.mem_map.mp hclose with ⟨fd, -, rfl⟩
    exact trivial
  · rw [List.mem_singleton.mp hrespond]
    exact readable_respond_error _ _ herror

/-- The next step of a worker as a section. -/
theorem readable_toSection (x : Target c) {next : WorkerStep} (h : next.Readable) :
    (next.toSection x).Readable := by
  cases next with
  | markFailed message => exact h
  | _ => exact trivial

/-- Nothing is left to run. -/
theorem readable_nil : ∀ s ∈ ([] : List (Section c)), s.Readable := by
  simp

/-- A single section. -/
theorem readable_singleton {s : Section c} (h : s.Readable) : ∀ t ∈ [s], t.Readable := by
  intro t ht
  rw [List.mem_singleton.mp ht]
  exact h

/-- Sections behind others. -/
theorem readable_append {front back : List (Section c)} (hfront : ∀ s ∈ front, s.Readable)
    (hback : ∀ s ∈ back, s.Readable) : ∀ s ∈ front ++ back, s.Readable :=
  List.forall_mem_append.mpr ⟨hfront, hback⟩

/-- Sections under a condition. -/
theorem readable_if {condition : Prop} [Decidable condition] {next next' : List (Section c)}
    (hnext : ∀ s ∈ next, s.Readable) (hnext' : ∀ s ∈ next', s.Readable) :
    ∀ s ∈ (if condition then next else next'), s.Readable := by
  split
  · exact hnext
  · exact hnext'

/-- The addresses of a contract come from the sockets of the start. -/
theorem connectAddrs_utf8 (feature : FeatureDefinition) {sockets : List ListeningSocket}
    (h : ∀ socketInfo ∈ sockets, AllUtf8 socketInfo.advertiseAddrs) :
    AllUtf8 (feature.connectAddrs sockets) := by
  unfold FeatureDefinition.connectAddrs
  split
  · exact allUtf8_nil
  · intro text htext
    rcases List.mem_filterMap.mp htext with ⟨socketInfo, hmem, hhead⟩
    exact h socketInfo hmem text (List.mem_of_mem_head? hhead)
  · cases hhead : sockets.head? with
    | none => exact allUtf8_nil
    | some socketInfo => exact h socketInfo (List.mem_of_mem_head? hhead)

/-! ## Sections keep the state readable -/

section

variable {host : Host} (hhost : host.Utf8) (hcatalog : c.Utf8)
variable {σ : Shared c} (hσ : σ.Readable)

include hσ

/-- A deadline that has passed leaves readable texts. -/
theorem exec_maybeTimeout_readable (x : Target c) (input : Input) :
    (exec host σ (.maybeTimeout x) input).All Shared.Readable Section.Readable := by
  simp only [exec]
  split
  · exact .of_next hσ readable_nil
  · rename_i e he
    exact .of_next (hσ.setExecution x ((hσ.execution x).timeOut he)) (readable_finish x)

/-- So does a failure. -/
theorem exec_markFailed_readable (x : Target c) {message : CppString} (hmessage : IsUtf8 message)
    (input : Input) :
    (exec host σ (.markFailed x message) input).All Shared.Readable Section.Readable := by
  simp only [exec]
  split
  · exact .of_next hσ readable_nil
  · rename_i e he
    exact .of_next (hσ.setExecution x ((hσ.execution x).fail hmessage he)) (readable_finish x)

/-- So does the observation of the server. -/
theorem exec_markNetworkComplete_readable (x : Target c) (input : Input) :
    (exec host σ (.markNetworkComplete x) input).All Shared.Readable Section.Readable := by
  simp only [exec]
  split
  · exact .of_next hσ readable_nil
  · rename_i e finished he
    exact .of_next (hσ.setExecution x ((hσ.execution x).observe he))
      (readable_if (readable_finish x) (readable_singleton trivial))

/-- So does a report of success whose texts are UTF-8. -/
theorem exec_complete_readable (h : Handler c) (body : CppString) (input : Input)
    (hkeeps : (Section.complete h body).KeepsUtf8 σ input) :
    (exec host σ (.complete h body) input).All Shared.Readable Section.Readable := by
  simp only [exec]
  split
  · rename_i error herror
    exact .of_next hσ
      (readable_singleton (readable_respond_error _ _ (parseCompleteReport_error_utf8 herror)))
  · rename_i report hreport
    split
    · rename_i status message he
      exact .of_next hσ (readable_singleton
        (readable_respond_error _ _ (FeatureExecution.complete_error_utf8 he)))
    · rename_i e finished he
      have hkept := hkeeps report (e, finished) hreport he
      exact .of_next (hσ.setExecution h.target ((hσ.execution h.target).complete hkept he))
        (readable_append (readable_if (readable_finish _) readable_nil)
          (readable_singleton trivial))

/-- So does a report of missing support. -/
theorem exec_unsupported_readable (h : Handler c) (body : CppString) (input : Input)
    (hkeeps : (Section.unsupported h body).KeepsUtf8 σ input) :
    (exec host σ (.unsupported h body) input).All Shared.Readable Section.Readable := by
  simp only [exec]
  split
  · rename_i error herror
    exact .of_next hσ
      (readable_singleton (readable_respond_error _ _ (parseUnsupportedReport_error_utf8 herror)))
  · rename_i report hreport
    split
    · rename_i status message he
      exact .of_next hσ (readable_singleton
        (readable_respond_error _ _ (FeatureExecution.markUnsupported_error_utf8 he)))
    · rename_i e he
      have hkept := hkeeps report e hreport he
      exact .of_next
        (hσ.setExecution h.target ((hσ.execution h.target).markUnsupported hkept he))
        (readable_append (readable_finish _) (readable_singleton trivial))

include hhost

/-- So does a socket that is opened. -/
theorem exec_openSocket_readable (h : Handler c) {sockets : List ListeningSocket}
    (hsockets : ∀ socketInfo ∈ sockets, AllUtf8 socketInfo.advertiseAddrs) (input : Input) :
    (exec host σ (.openSocket h sockets) input).All Shared.Readable Section.Readable := by
  simp only [exec]
  split
  · rename_i error herror
    exact .of_next hσ (readable_rollback h _ (addressCountError_utf8 herror))
  · split
    · exact .of_next hσ (readable_rollback h _ (hhost.strerror _))
    · exact .of_next hσ (readable_singleton hsockets)

/-- So does the setup of a socket. -/
theorem exec_setupSocket_readable (h : Handler c) {sockets : List ListeningSocket}
    (hsockets : ∀ socketInfo ∈ sockets, AllUtf8 socketInfo.advertiseAddrs) (fd : Nat)
    (input : Input) :
    (exec host σ (.setupSocket h sockets fd) input).All Shared.Readable Section.Readable := by
  simp only [exec]
  split
  · rename_i error herror
    exact .of_next hσ (readable_rollback h _ (hhost.setup_error herror))
  · rename_i socketInfo hsetup
    have hmore : ∀ socketInfo' ∈ sockets ++ [socketInfo], AllUtf8 socketInfo'.advertiseAddrs := by
      intro socketInfo' hmem
      rcases List.mem_append.mp hmem with hmem | hmem
      · exact hsockets socketInfo' hmem
      · rw [List.mem_singleton.mp hmem]
        exact hhost.setup_addresses hsetup
    exact .of_next hσ (readable_if (readable_singleton hmore) (readable_singleton hmore))

/-- So does a message that is sent. -/
theorem exec_send_readable (x : Target c) (state : WorkerState) (input : Input) :
    (exec host σ (.send x state) input).All Shared.Readable Section.Readable := by
  simp only [exec]
  split
  · exact .of_next hσ (readable_singleton (readable_toSection x
      (WorkerState.onSend_readable hhost _ _)))
  · exact .of_next hσ (readable_singleton (readable_toSection x
      (WorkerState.onSend_readable hhost _ _)))

include hcatalog

/-- So does a message that is received. -/
theorem exec_receive_readable (x : Target c) (state : WorkerState) (input : Input) :
    (exec host σ (.receive x state) input).All Shared.Readable Section.Readable := by
  simp only [exec]
  split
  · exact .of_next hσ (readable_singleton (readable_toSection x
      (WorkerState.onReceive_readable hhost (hcatalog.id _) _ _)))
  · exact .of_next hσ (readable_singleton trivial)

/-- A section whose report leaves only UTF-8 behind keeps the state readable, and what
it goes on with can be written. -/
theorem exec_readable {s : Section c} (hs : s.Readable) (input : Input)
    (hkeeps : s.KeepsUtf8 σ input) :
    (exec host σ s input).All Shared.Readable Section.Readable := by
  cases s with
  | maybeTimeout x => exact exec_maybeTimeout_readable hσ x input
  | takeActiveFds x =>
      apply Effect.All.of_next (hσ.setExecution x ((hσ.execution x).withFds []))
      intro s hs
      rcases List.mem_map.mp hs with ⟨fd, -, rfl⟩
      exact trivial
  | closeFd x fd => exact .of_next hσ readable_nil
  | clearActiveFeature x =>
      refine .of_next ?_ readable_nil
      split
      · exact hσ.setActiveId _ isUtf8_nil
      · exact hσ
  | startGuard h =>
      simp only [exec]
      split
      · exact .of_next hσ (readable_singleton (readable_respond_error _ _ (isUtf8_str _)))
      · exact .of_next hσ (readable_singleton trivial)
  | startPending h =>
      have hnone : ∀ socketInfo ∈ ([] : List ListeningSocket),
          AllUtf8 socketInfo.advertiseAddrs := by simp
      simp only [exec]
      split
      · exact .of_next hσ (readable_singleton (readable_respond_error _ _ (isUtf8_str _)))
      · split
        · exact .of_next hσ (readable_singleton hnone)
        · split
          · exact .of_next hσ (readable_singleton (readable_respond_error _ _ (isUtf8_str _)))
          · exact .of_next hσ (readable_singleton hnone)
  | openSocket h sockets => exact exec_openSocket_readable hhost hσ h hs input
  | setupSocket h sockets fd => exact exec_setupSocket_readable hhost hσ h hs fd input
  | activate h sockets =>
      have hnone : ∀ socketInfo ∈ ([] : List ListeningSocket),
          AllUtf8 socketInfo.advertiseAddrs := by simp
      exact .of_next (hσ.setExecution _ ((hσ.execution _).activate _))
        (readable_if (readable_singleton hnone) (readable_singleton hs))
  | setActiveFds h sockets =>
      exact .of_next (hσ.setExecution _ ((hσ.execution _).withFds _)) (readable_singleton hs)
  | setActiveFeature h sockets =>
      exact .of_next (hσ.setActiveId _ (hcatalog.id _)) (readable_singleton hs)
  | launchWorker h sockets =>
      refine ⟨hσ, readable_singleton ?_, ?_⟩
      · intro _
        exact ⟨_, buildContract_text _ _,
          utf8_contractValue (hcatalog.definition _) (connectAddrs_utf8 _ hs)⟩
      · intro program hprogram
        rcases Option.map_eq_some_iff.mp hprogram with ⟨worker, -, rfl⟩
        exact readable_singleton (readable_toSection _ worker.start_readable)
  | setContract h contract =>
      have he : FeatureExecution.Readable { σ.execution h.target with contractJson := contract } :=
        ⟨(hσ.execution h.target).texts, hs⟩
      exact .of_next (hσ.setExecution _ he) (readable_singleton trivial)
  | adjustMessage h =>
      exact .of_next (hσ.setExecution _ (hσ.execution _).adjustMessage)
        (readable_singleton trivial)
  | complete h body => exact exec_complete_readable hσ h body input hkeeps
  | unsupported h body => exact exec_unsupported_readable hσ h body input hkeeps
  | readFeature h =>
      refine .of_next hσ (readable_singleton ?_)
      intro _
      exact featureJsonLocked_valid (hcatalog.definition _) (hσ.execution h.target) true
  | readSession session client =>
      refine .of_next hσ (readable_singleton ?_)
      intro _
      apply sessionJson_valid hcatalog (hσ session).texts
      intro entry hentry
      rcases List.mem_map.mp hentry with ⟨r, -, rfl⟩
      exact (hσ session).features r
  | summary session client stream left entries =>
      cases left with
      | nil =>
          have htexts := (hσ session).texts
          simp only [Session.texts, allUtf8_cons] at htexts
          have hsummary := summaryJson_valid hcatalog htexts.1 hs
          refine .of_next hσ (readable_if (readable_singleton hsummary) (readable_singleton ?_))
          exact fun _ => hsummary
      | cons r left =>
          refine .of_next hσ ?_
          exact readable_append (readable_singleton (s := .maybeTimeout ⟨session, r⟩) trivial)
            (readable_singleton hs)
  | summaryEntry session client stream r left entries =>
      refine .of_next hσ (readable_singleton ?_)
      intro entry hentry
      rcases List.mem_append.mp hentry with hmem | hmem
      · exact hs entry hmem
      · rw [List.mem_singleton.mp hmem]
        exact hσ.execution ⟨session, r⟩
  | writeEvent session client event =>
      refine .of_next hσ (readable_if (readable_singleton ?_) (readable_singleton trivial))
      intro entry hentry
      contradiction
  | respond client response => exact .of_next hσ readable_nil
  | hangUp client => exact .of_next hσ readable_nil
  | receive x state => exact exec_receive_readable hhost hcatalog hσ x state input
  | receiving x state =>
      exact .of_next hσ (readable_singleton (readable_toSection x
        (WorkerState.onReceive_readable hhost (hcatalog.id _) _ _)))
  | send x state => exact exec_send_readable hhost hσ x state input
  | markFailed x message => exact exec_markFailed_readable hσ x hs input
  | markNetworkComplete x => exact exec_markNetworkComplete_readable hσ x input

end

end SctpConformance
