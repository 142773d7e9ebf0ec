import Mathlib.Data.List.Sort
import Mathlib.Data.String.Basic
import GpuFaultRecovery.Run
import GpuFaultRecovery.Table

/-!
# Submissions to a node-lifecycle provider

A reboot may restart the very process that asked for it, and a failover moves the retry to another replica, so the key
of a submission is reserved in the store before the provider is called, and the outcome is recorded after. Replicas
interleave at the look-up, the checks, the reservation, the provider's call and the recording, and may stop for good
in between; a recording may also fail. In every run the provider is called at most once for a key, and whoever gets a
result gets that of this call.
-/

namespace GpuFaultRecovery

/-! ### Records and results -/

inductive HyperPodAction
  | reboot
  | replace
deriving DecidableEq, Repr

structure HyperPodNodeFailure where
  nodeLogicalId : Option String := none
  nodeId : Option String := none
  errorCode : Option String := none
  message : Option String := none
deriving DecidableEq, Repr

structure HyperPodSubmissionResult where
  operationId : String
  idempotencyKey : String
  action : HyperPodAction
  clusterName : String
  requestedNodeLogicalIds : List String
  successfulNodeLogicalIds : List String
  failures : List HyperPodNodeFailure := []
  submitted : Bool := true
  duplicate : Bool := false
deriving DecidableEq, Repr

inductive SubmissionState
  | intended
  | submitted
  | unknown
deriving DecidableEq, Repr

/-- What a key was used for: the action, and the nodes in order. -/
abbrev RequestIdentity := HyperPodAction × List String

def requestIdentity (action : HyperPodAction) (nodeIdentifiers : List String) : RequestIdentity :=
  (action, nodeIdentifiers.insertionSort (· ≤ ·))

/-- `_hyperpod_submission_key`. -/
def submissionKey (clusterName idempotencyKey : String) : String := clusterName ++ "/" ++ idempotencyKey

structure HyperPodSubmissionRecord where
  clusterName : String
  idempotencyKey : String
  action : HyperPodAction
  requestedNodeIdentifiers : List String
  state : SubmissionState := .intended
  result : Option HyperPodSubmissionResult := none
  error : Option String := none
deriving DecidableEq, Repr

namespace HyperPodSubmissionRecord

variable (record : HyperPodSubmissionRecord)

def key : String := submissionKey record.clusterName record.idempotencyKey

def identity : RequestIdentity := requestIdentity record.action record.requestedNodeIdentifiers

end HyperPodSubmissionRecord

/-! ### The ledger -/

/-- What tells the two providers apart: how they are called in the texts. -/
structure ProviderTexts where
  label : String
  replaceRefused : String
  otherCluster : String
  preflightFailed : String

def hyperPodTexts : ProviderTexts where
  label := "HyperPod"
  replaceRefused := "provider node replacement is prohibited; use the healthy warm-spare coordinator"
  otherCluster := "cluster confirmation does not match configured HyperPod cluster"
  preflightFailed := "HyperPod preflight failed: "

def eksTexts : ProviderTexts where
  label := "EKS"
  replaceRefused := "provider node replacement is unsupported on eks-managed clusters"
  otherCluster := "cluster confirmation does not match the configured cluster id"
  preflightFailed := "EKS preflight failed: "

/-- `durable_outcome`. -/
def durableOutcome (texts : ProviderTexts) (record : HyperPodSubmissionRecord) (identity : RequestIdentity) :
    Except String (Option HyperPodSubmissionResult) :=
  if record.identity ≠ identity then
    .error ("idempotency key was already used for a different " ++ texts.label ++ " request")
  else
    match record.state, record.result with
    | .submitted, some result => .ok (some { result with duplicate := true })
    | .unknown, _ =>
      .error ("a previous " ++ texts.label ++
        " submission for this idempotency key has an unknown outcome; an operator " ++
        "must confirm the node state before retrying: " ++ (record.error.filter (· ≠ "")).getD "no error recorded")
    | _, _ => .ok none

def reservedText (texts : ProviderTexts) : String :=
  "a " ++ texts.label ++
    " submission for this idempotency key is already reserved and has no recorded outcome; it is " ++
    "either in flight on another replica or was interrupted, so retrying here could submit a second batch"

/-! ### Calls -/

/-- The arguments of `submit`, with the cluster of the adapter's configuration. -/
structure SubmitRequest where
  clusterName : String
  action : HyperPodAction
  nodeIdentifiers : List String
  confirmClusterName : String
  workflowFencingToken : Nat
  expectedFencingToken : Nat
  idempotencyKey : String
deriving DecidableEq, Repr

namespace SubmitRequest

variable (request : SubmitRequest)

def key : String := submissionKey request.clusterName request.idempotencyKey

def identity : RequestIdentity := requestIdentity request.action request.nodeIdentifiers

def record : HyperPodSubmissionRecord where
  clusterName := request.clusterName
  idempotencyKey := request.idempotencyKey
  action := request.action
  requestedNodeIdentifiers := request.nodeIdentifiers

end SubmitRequest

/-- What the provider answers: the nodes it takes and those it refuses, or an exception. -/
inductive LifecycleAnswer
  | response (successful : List String) (failures : List HyperPodNodeFailure)
  | raised (error : String)
deriving DecidableEq, Repr

def LifecycleAnswer.result (request : SubmitRequest) (logicalIds : List String) (operationId : String) :
    LifecycleAnswer → Option HyperPodSubmissionResult
  | .response successful failures =>
    some {
      operationId := operationId
      idempotencyKey := request.idempotencyKey
      action := request.action
      clusterName := request.clusterName
      requestedNodeLogicalIds := logicalIds
      successfulNodeLogicalIds := successful
      failures := failures }
  | .raised _ => none

/-- Where a call of `submit` stands. -/
inductive SubmitPhase
  | idle
  | started (request : SubmitRequest)
  /-- The key was not used: the guards come next. -/
  | unused (request : SubmitRequest)
  | cleared (request : SubmitRequest) (logicalIds : List String)
  /-- The key is reserved: the provider is called next. -/
  | reserved (request : SubmitRequest) (logicalIds : List String)
  /-- The provider has answered: the outcome is recorded next. -/
  | answered (request : SubmitRequest) (result : Option HyperPodSubmissionResult) (error : Option String)
  | returned (request : SubmitRequest) (result : HyperPodSubmissionResult)
  | raised (message : String)
deriving DecidableEq

structure ProviderCall where
  key : String
  identity : RequestIdentity
  result : Option HyperPodSubmissionResult
deriving DecidableEq, Repr

/-- The stored records, the calls of all replicas, and the calls the provider has had. -/
structure SubmissionWorld where
  records : Table HyperPodSubmissionRecord.key := Table.empty
  phase : Nat → SubmitPhase := fun _ => .idle
  provider : List ProviderCall := []

inductive SubmissionInput
  | submit (caller : Nat) (request : SubmitRequest)
  | replay (caller : Nat)
  /-- The preflight's verdict: its failures, or the logical ids of the nodes. -/
  | guard (caller : Nat) (preflight : Except (List String) (List String))
  | reserve (caller : Nat)
  | provide (caller : Nat) (operationId : String) (answer : LifecycleAnswer)
  | record (caller : Nat) (saved : Bool)
  /-- The process is gone. -/
  | crash (caller : Nat)

namespace SubmissionWorld

variable (s : SubmissionWorld)

def goTo (caller : Nat) (phase : SubmitPhase) : SubmissionWorld :=
  { s with phase := fun other => if other = caller then phase else s.phase other }

end SubmissionWorld

/-- What a look-up of the key comes to: its outcome, or `next` if there is none. -/
def afterOutcome (request : SubmitRequest) (next : SubmitPhase) :
    Except String (Option HyperPodSubmissionResult) → SubmitPhase
  | .ok (some result) => .returned request result
  | .ok none => next
  | .error message => .raised message

/-- The guards of `submit` between the look-up and the reservation. -/
def afterGuards (texts : ProviderTexts) (request : SubmitRequest) (preflight : Except (List String) (List String)) :
    SubmitPhase :=
  if request.confirmClusterName ≠ request.clusterName then .raised texts.otherCluster
  else if request.workflowFencingToken ≠ request.expectedFencingToken then .raised "stale workflow fencing token"
  else
    match preflight with
    | .error failures => .raised (texts.preflightFailed ++ "; ".intercalate failures)
    | .ok logicalIds => .cleared request logicalIds

/-- How a call ends once the provider has answered: with the result, or with the exception. -/
def afterAnswer (request : SubmitRequest) (error : Option String) : Option HyperPodSubmissionResult → SubmitPhase
  | some result => .returned request result
  | none => .raised (error.getD "")

def outcomeRecord (request : SubmitRequest) (result : Option HyperPodSubmissionResult) (error : Option String) :
    HyperPodSubmissionRecord :=
  { request.record with
    state := if result.isSome then .submitted else .unknown
    result := result
    error := error }

def submissionStep (texts : ProviderTexts) (s : SubmissionWorld) : SubmissionInput → SubmissionWorld
  | .submit caller request =>
    if s.phase caller = .idle then
      s.goTo caller (if request.action = .replace then .raised texts.replaceRefused else .started request)
    else s
  | .replay caller =>
    match s.phase caller with
    | .started request =>
      match s.records.get? request.key with
      | none => s.goTo caller (.unused request)
      | some record =>
        s.goTo caller (afterOutcome request (.unused request) (durableOutcome texts record request.identity))
    | _ => s
  | .guard caller preflight =>
    match s.phase caller with
    | .unused request => s.goTo caller (afterGuards texts request preflight)
    | _ => s
  | .reserve caller =>
    match s.phase caller with
    | .cleared request logicalIds =>
      match s.records.get? request.key with
      | some record =>
        s.goTo caller
          (afterOutcome request (.raised (reservedText texts)) (durableOutcome texts record request.identity))
      -- one transaction: whoever finds the key free has it
      | none => { s.goTo caller (.reserved request logicalIds) with records := s.records.put request.record }
    | _ => s
  | .provide caller operationId answer =>
    match s.phase caller with
    | .reserved request logicalIds =>
      let result := answer.result request logicalIds operationId
      { s.goTo caller (.answered request result (match answer with | .raised error => some error | _ => none)) with
        provider := s.provider ++ [⟨request.key, request.identity, result⟩] }
    | _ => s
  | .record caller saved =>
    match s.phase caller with
    | .answered request result error =>
      if saved then
        { s.goTo caller (afterAnswer request error result) with
          records := s.records.put (outcomeRecord request result error) }
      -- the outcome is lost, and the reservation stands for good
      else s.goTo caller (afterAnswer request error result)
    | _ => s
  | .crash caller => s.goTo caller (.raised "")

/-! ### Who holds a key -/

/-- The key that a call has reserved and not yet settled. -/
def SubmitPhase.holds : SubmitPhase → Option String
  | reserved request _ => some request.key
  | answered request _ _ => some request.key
  | _ => none

def CalledWith (s : SubmissionWorld) (key : String) (identity : RequestIdentity)
    (result : Option HyperPodSubmissionResult) : Prop :=
  (⟨key, identity, result⟩ : ProviderCall) ∈ s.provider

/-- A result that a call returns is that of the provider's call for the key, or a copy of it marked as a duplicate. -/
def ResultOf (s : SubmissionWorld) (request : SubmitRequest) (result : HyperPodSubmissionResult) : Prop :=
  ∃ first, CalledWith s request.key request.identity (some first) ∧
    (result = first ∨ result = { first with duplicate := true })

/-- What holds of a call. A reserved key has its reservation on record, and the provider has not been called for
it. -/
def SubmitOk (s : SubmissionWorld) : SubmitPhase → Prop
  | .reserved request _ =>
    s.records.get? request.key = some request.record ∧ ∀ call ∈ s.provider, call.key ≠ request.key
  | .answered request result _ =>
    s.records.get? request.key = some request.record ∧ CalledWith s request.key request.identity result
  | .returned request result => ResultOf s request result
  | _ => True

/-- What holds of the records, the calls and the provider in every run. -/
structure SubmissionOk (s : SubmissionWorld) : Prop where
  calls : ∀ caller, SubmitOk s (s.phase caller)
  unique : ∀ caller other key, (s.phase caller).holds = some key → (s.phase other).holds = some key → caller = other
  settled : ∀ key record, s.records.get? key = some record → record.state = .submitted →
    CalledWith s key record.identity record.result
  known : ∀ call ∈ s.provider, (s.records.get? call.key).isSome = true
  once : (s.provider.map ProviderCall.key).Nodup

section Steps

variable {texts : ProviderTexts} {s s' : SubmissionWorld} {caller : Nat} {phase : SubmitPhase}
  {request : SubmitRequest}
  {record : HyperPodSubmissionRecord}

private theorem SubmissionOk.empty : SubmissionOk {} where
  calls _ := trivial
  unique _ _ _ h := by cases h
  settled _ _ h := by cases h
  known _ h := by cases h
  once := List.nodup_nil

def SubmitPhase.Plain (phase : SubmitPhase) : Prop :=
  phase.holds = none ∧ ∀ request result, phase ≠ .returned request result

private theorem callOk_plain (s : SubmissionWorld) (h : phase.Plain) : SubmitOk s phase := by
  cases phase with
  | reserved request logicalIds => cases h.1
  | answered request result error => cases h.1
  | returned request result => exact absurd rfl (h.2 request result)
  | _ => trivial

private theorem SubmitOk.recorded {key : String} (h : SubmitOk s phase) (hholds : phase.holds = some key) :
    (s.records.get? key).isSome = true := by
  cases phase with
  | reserved request logicalIds =>
    rw [← Option.some.inj hholds, h.1]
    rfl
  | answered request result error =>
    rw [← Option.some.inj hholds, h.1]
    rfl
  | _ => cases hholds

private theorem SubmitOk.put (h : SubmitOk s phase) (hother : phase.holds ≠ some record.key)
    (hprovider : s'.provider = s.provider) (hrecords : s'.records = s.records.put record) : SubmitOk s' phase := by
  have hget : ∀ key, some key ≠ some record.key → s'.records.get? key = s.records.get? key := fun key hne => by
    rw [hrecords]
    exact Table.get?_put_ne fun he => hne (congrArg some he)
  cases phase with
  | reserved request logicalIds => exact ⟨(hget _ hother).trans h.1, hprovider ▸ h.2⟩
  | answered request result error => exact ⟨(hget _ hother).trans h.1, by rw [CalledWith, hprovider]; exact h.2⟩
  | returned request result =>
    obtain ⟨first, hcalled, hsame⟩ := h
    exact ⟨first, by rwa [CalledWith, hprovider], hsame⟩
  | _ => trivial

/-- The provider is called for a key that the call does not hold. -/
private theorem SubmitOk.provided {call : ProviderCall} (h : SubmitOk s phase) (hother : phase.holds ≠ some call.key)
    (hrecords : s'.records = s.records) (hprovider : s'.provider = s.provider ++ [call]) : SubmitOk s' phase := by
  have hmore : ∀ {key identity result}, CalledWith s key identity result → CalledWith s' key identity result := by
    intro key identity result hcalled
    rw [CalledWith, hprovider]
    exact List.mem_append_left _ hcalled
  cases phase with
  | reserved request logicalIds =>
    refine ⟨by rw [hrecords]; exact h.1, fun other hin he => ?_⟩
    rw [hprovider] at hin
    rcases List.mem_append.mp hin with hin | hin
    · exact h.2 other hin he
    · rw [List.mem_singleton.mp hin] at he
      exact hother (congrArg some he.symm)
  | answered request result error => exact ⟨by rw [hrecords]; exact h.1, hmore h.2⟩
  | returned request result =>
    obtain ⟨first, hcalled, hsame⟩ := h
    exact ⟨first, hmore hcalled, hsame⟩
  | _ => trivial

/-- The calls, where one of them has moved on to a phase whose key no other holds. -/
private theorem calls_of_goTo (s' : SubmissionWorld) (h : SubmissionOk s)
    (hphase : ∀ other, s'.phase other = if other = caller then phase else s.phase other)
    (hself : SubmitOk s' phase) (hothers : ∀ other, other ≠ caller → SubmitOk s' (s.phase other))
    (hfree : ∀ key, phase.holds = some key → ∀ other, other ≠ caller → (s.phase other).holds ≠ some key) :
    (∀ other, SubmitOk s' (s'.phase other)) ∧
      ∀ one other key, (s'.phase one).holds = some key → (s'.phase other).holds = some key → one = other := by
  refine ⟨fun other => ?_, fun one other key hone hother => ?_⟩
  · rw [hphase]
    split
    · exact hself
    · rename_i hne
      exact hothers other hne
  · rw [hphase] at hone hother
    split at hone
    · rename_i he
      split at hother
      · rename_i he'
        rw [he, he']
      · rename_i hne
        exact absurd hother (hfree key hone other hne)
    · rename_i hne
      split at hother
      · exact absurd hone (hfree key hother one hne)
      · exact h.unique one other key hone hother

private theorem SubmissionOk.goTo (h : SubmissionOk s) (hfree : phase.holds = none) (hself : SubmitOk s phase) :
    SubmissionOk (s.goTo caller phase) := by
  have hnone : ∀ key, phase.holds = some key → ∀ other, other ≠ caller → (s.phase other).holds ≠ some key := by
    intro key he
    rw [hfree] at he
    cases he
  have hcall : ∀ other, SubmitOk s other → SubmitOk (s.goTo caller phase) other := fun other hok => by
    cases other <;> exact hok
  obtain ⟨hcalls, hunique⟩ := calls_of_goTo (s.goTo caller phase) h (fun _ => rfl) (hcall phase hself)
    (fun other _ => hcall _ (h.calls other)) hnone
  exact ⟨hcalls, hunique, h.settled, h.known, h.once⟩

private theorem SubmissionOk.goPlain (h : SubmissionOk s) (hplain : phase.Plain) :
    SubmissionOk (s.goTo caller phase) :=
  h.goTo hplain.1 (callOk_plain s hplain)

private theorem SubmissionOk.resultOf_durableOutcome (h : SubmissionOk s)
    (hrecord : s.records.get? request.key = some record) {result : HyperPodSubmissionResult}
    (hout : durableOutcome texts record request.identity = .ok (some result)) : ResultOf s request result := by
  unfold durableOutcome at hout
  split at hout
  · cases hout
  rename_i hidentity
  rw [not_not] at hidentity
  split at hout
  · rename_i first hstate hfirst
    have hcalled := h.settled request.key record hrecord hstate
    rw [hidentity, hfirst] at hcalled
    exact ⟨first, hcalled, .inr (Option.some.inj (Except.ok.inj hout)).symm⟩
  · cases hout
  · cases hout

private theorem plain_raised (message : String) : (SubmitPhase.raised message).Plain :=
  ⟨rfl, fun _ _ he => by cases he⟩

private theorem SubmissionOk.afterOutcome (h : SubmissionOk s) {next : SubmitPhase}
    (hrecord : s.records.get? request.key = some record) (hnext : next.Plain) :
    SubmissionOk (s.goTo caller (afterOutcome request next (durableOutcome texts record request.identity))) := by
  cases hout : durableOutcome texts record request.identity with
  | error message => exact h.goPlain (plain_raised message)
  | ok outcome =>
    cases outcome with
    | none => exact h.goPlain hnext
    | some result => exact h.goTo rfl (h.resultOf_durableOutcome hrecord hout)

/-- The record of a key is written by a call that alone may hold the key. -/
private theorem SubmissionOk.put (h : SubmissionOk s)
    (hfree : ∀ other, other ≠ caller → (s.phase other).holds ≠ some record.key)
    (hholds : phase.holds = none ∨ phase.holds = some record.key)
    (hself : SubmitOk { s.goTo caller phase with records := s.records.put record } phase)
    (hsettled : record.state = .submitted → CalledWith s record.key record.identity record.result) :
    SubmissionOk { s.goTo caller phase with records := s.records.put record } := by
  have hget : ∀ key, key ≠ record.key → (s.records.put record).get? key = s.records.get? key := fun key hne =>
    Table.get?_put_ne hne
  have hkey : ∀ key, phase.holds = some key → ∀ other, other ≠ caller → (s.phase other).holds ≠ some key := by
    intro key he other hne
    rcases hholds with hnone | hsome
    · rw [hnone] at he
      cases he
    · rw [← Option.some.inj (hsome.symm.trans he)]
      exact hfree other hne
  obtain ⟨hcalls, hunique⟩ := calls_of_goTo _ h (fun _ => rfl) hself
    (fun other hne => (h.calls other).put (hfree other hne) rfl rfl) hkey
  refine ⟨hcalls, hunique, fun key row hrow hstate => ?_, fun call hcall => ?_, h.once⟩
  · by_cases hne : key = record.key
    · subst hne
      rw [Table.get?_put_self] at hrow
      obtain rfl := Option.some.inj hrow
      exact hsettled hstate
    · rw [hget key hne] at hrow
      exact h.settled key row hrow hstate
  · by_cases hne : call.key = record.key
    · rw [hne, Table.get?_put_self]
      rfl
    · rw [hget _ hne]
      exact h.known call hcall

private theorem SubmissionOk.reserve (h : SubmissionOk s) {logicalIds : List String}
    (hnone : s.records.get? request.key = none) :
    SubmissionOk { s.goTo caller (.reserved request logicalIds) with records := s.records.put request.record } := by
  -- whoever else holds a key has it on record, so it is another one
  have hfree : ∀ other, other ≠ caller → (s.phase other).holds ≠ some request.record.key := by
    intro other _ hholds
    have hsome := (h.calls other).recorded hholds
    rw [show request.record.key = request.key from rfl, hnone] at hsome
    cases hsome
  refine h.put hfree (.inr rfl) ⟨Table.get?_put_self _ _, fun call hcall he => ?_⟩ fun hstate => ?_
  · have hsome := h.known call hcall
    rw [he, hnone] at hsome
    cases hsome
  · cases hstate

/-- The holder of a key calls the provider. -/
private theorem SubmissionOk.provide (h : SubmissionOk s) {logicalIds : List String}
    (hreserved : s.phase caller = .reserved request logicalIds) (result : Option HyperPodSubmissionResult)
    (error : Option String) :
    SubmissionOk { s.goTo caller (.answered request result error) with
      provider := s.provider ++ [⟨request.key, request.identity, result⟩] } := by
  obtain ⟨hrecord, hfresh⟩ : SubmitOk s (.reserved request logicalIds) := hreserved ▸ h.calls caller
  have hfree : ∀ other, other ≠ caller → (s.phase other).holds ≠ some request.key := fun other hne hholds =>
    hne (h.unique other caller request.key hholds (by rw [hreserved]; rfl))
  obtain ⟨hcalls, hunique⟩ := calls_of_goTo
    { s.goTo caller (.answered request result error) with
      provider := s.provider ++ [⟨request.key, request.identity, result⟩] } h
    (fun _ => rfl) ⟨hrecord, List.mem_append_right _ (List.mem_singleton.mpr rfl)⟩
    (fun other hne => (h.calls other).provided (hfree other hne) rfl rfl)
    (fun key he other hne => by rw [← Option.some.inj he]; exact hfree other hne)
  refine ⟨hcalls, hunique, fun key row hrow hstate => List.mem_append_left _ (h.settled key row hrow hstate),
    fun call hcall => ?_, ?_⟩
  · rcases List.mem_append.mp hcall with hcall | hcall
    · exact h.known call hcall
    · rw [List.mem_singleton.mp hcall]
      exact Option.isSome_iff_exists.mpr ⟨_, hrecord⟩
  · rw [List.map_append, List.nodup_append]
    refine ⟨h.once, List.nodup_singleton _, fun key hkey key' hkey' he => ?_⟩
    obtain ⟨call, hcall, rfl⟩ := List.mem_map.mp hkey
    rw [List.map_singleton, List.mem_singleton] at hkey'
    exact hfresh call hcall (he.trans hkey')

/-- The holder of a key lets go of it with the provider's answer, which it has recorded or not. -/
private theorem SubmissionOk.letGo (h : SubmissionOk s) {result : Option HyperPodSubmissionResult}
    {error : Option String} (hanswered : s.phase caller = .answered request result error) (saved : Bool) :
    SubmissionOk (if saved then
        { s.goTo caller (afterAnswer request error result) with
          records := s.records.put (outcomeRecord request result error) }
      else s.goTo caller (afterAnswer request error result)) := by
  obtain ⟨-, hcalled⟩ : SubmitOk s (.answered request result error) := hanswered ▸ h.calls caller
  have hfree : (afterAnswer request error result).holds = none := by cases result <;> rfl
  have hself : ∀ s' : SubmissionWorld, s'.provider = s.provider → SubmitOk s' (afterAnswer request error result) := by
    intro s' hprovider
    cases result with
    | none => trivial
    | some first => exact ⟨first, by rwa [CalledWith, hprovider], .inl rfl⟩
  cases saved with
  | false => exact h.goTo hfree (hself s rfl)
  | true =>
    refine h.put (fun other hne hholds => hne ?_) (.inl hfree) (hself _ rfl) fun _ => hcalled
    exact h.unique other caller request.key hholds (by rw [hanswered]; rfl)

private theorem plain_afterGuards (texts : ProviderTexts) (request : SubmitRequest)
    (preflight : Except (List String) (List String)) : (afterGuards texts request preflight).Plain := by
  unfold afterGuards
  split
  · exact plain_raised _
  split
  · exact plain_raised _
  cases preflight with
  | error failures => exact plain_raised _
  | ok logicalIds => exact ⟨rfl, fun _ _ he => by cases he⟩

private theorem SubmissionOk.step (h : SubmissionOk s) (i : SubmissionInput) :
    SubmissionOk (submissionStep texts s i) := by
  cases i with
  | submit caller request =>
    simp only [submissionStep]
    split
    · split
      · exact h.goPlain (plain_raised _)
      · exact h.goPlain ⟨rfl, fun _ _ he => by cases he⟩
    · exact h
  | replay caller =>
    simp only [submissionStep]
    split
    · rename_i request _
      have hunused : (SubmitPhase.unused request).Plain := ⟨rfl, fun _ _ he => by cases he⟩
      cases hrecord : s.records.get? request.key with
      | none => exact h.goPlain hunused
      | some record => exact h.afterOutcome hrecord hunused
    · exact h
  | guard caller preflight =>
    simp only [submissionStep]
    split
    · rename_i request _
      exact h.goPlain (plain_afterGuards texts request preflight)
    · exact h
  | reserve caller =>
    simp only [submissionStep]
    split
    · rename_i request logicalIds _
      cases hrecord : s.records.get? request.key with
      | none => exact h.reserve hrecord
      | some record => exact h.afterOutcome hrecord (plain_raised _)
    · exact h
  | provide caller operationId answer =>
    simp only [submissionStep]
    split
    · rename_i request logicalIds hreserved
      exact h.provide hreserved _ _
    · exact h
  | record caller saved =>
    simp only [submissionStep]
    split
    · rename_i request result error hanswered
      exact h.letGo hanswered saved
    · exact h
  | crash caller => exact h.goPlain (plain_raised _)

end Steps

/-- However the replicas interleave and wherever they stop, the provider is called at most once for a key, and every
result that a call returns is that of the provider's call for its key and its request, or a copy of it marked as a
duplicate. -/
theorem provider_called_at_most_once (texts : ProviderTexts) (l : List SubmissionInput) :
    let s := Run.exec (submissionStep texts) {} l
    (s.provider.map ProviderCall.key).Nodup ∧
      ∀ caller request result, s.phase caller = .returned request result →
        ∃ call ∈ s.provider, call.key = request.key ∧ call.identity = request.identity ∧
          ∃ first, call.result = some first ∧ (result = first ∨ result = { first with duplicate := true }) := by
  intro s
  have hok : SubmissionOk s :=
    Run.invariant_exec (P := fun _ _ => True) (fun _ i hs _ => hs.step i) SubmissionOk.empty (Run.along_true _ l)
  refine ⟨hok.once, fun caller request result hreturned => ?_⟩
  obtain ⟨first, hcalled, hsame⟩ : SubmitOk s (.returned request result) := hreturned ▸ hok.calls caller
  exact ⟨_, hcalled, rfl, rfl, first, rfl, hsame⟩

-- two replicas with one key: both pass the guards, and the one that loses the reservation makes no call
example :
    let request : SubmitRequest := ⟨"c", .reboot, ["n1"], "c", 1, 1, "k"⟩
    let s := Run.exec (submissionStep hyperPodTexts) {}
      [.submit 0 request, .replay 0, .guard 0 (.ok ["n1"]), .submit 1 request, .replay 1, .guard 1 (.ok ["n1"]),
        .reserve 0, .reserve 1, .provide 0 "o" (.raised "timed out"), .provide 1 "p" (.response ["n1"] [])]
    s.phase 1 = .raised (reservedText hyperPodTexts) ∧ s.provider.length = 1 := by
  decide +kernel

example :
    (submissionStep eksTexts {} (.submit 0 ⟨"c", .replace, ["n1"], "c", 1, 1, "k"⟩)).phase 0 =
      .raised "provider node replacement is unsupported on eks-managed clusters" := rfl

end GpuFaultRecovery
