import DeviceLink.Jobs.Operations
import DeviceLink.Proofs.Topic.Levels
import DeviceLink.Shadow.Operations

/-!
# No two interactions share a topic

Templates of different operations have equal prefixes and equal lengths, and the
name of a job or a shadow may be any of the words that templates use themselves.
Still no topic belongs to two of them: any two templates, each with the level of
a role, have different lengths or two different literals in one place
(`segments_apart`), and no values of the placeholders can change that.
-/

namespace DeviceLink

/-! ## Segments that no values make equal -/

/-- Whether two segments are different texts whatever the parameters are. -/
def Segment.clashes : Segment → Segment → Bool
  | literal s, literal t => s ≠ t
  | literal _, placeholder _ => false
  | placeholder _, _ => false

def segmentsApart : List Segment → List Segment → Bool
  | [], [] => false
  | a :: as, b :: bs => segmentsApart as bs || a.clashes b
  | [], _ :: _ => true
  | _ :: _, [] => true

theorem Segment.value?_ne_of_clashes {a b : Segment} (params params' : TopicParams)
    (clash : a.clashes b = true) : a.value? params ≠ b.value? params' := by
  cases a with
  | placeholder name => exact absurd clash (by simp [Segment.clashes])
  | literal s =>
      cases b with
      | placeholder name => exact absurd clash (by simp [Segment.clashes])
      | literal t =>
          intro hsame
          exact of_decide_eq_true clash (Option.some.inj hsame)

theorem values_ne_of_apart {as bs : List Segment} (params params' : TopicParams)
    (apart : segmentsApart as bs = true) :
    as.map (·.value? params) ≠ bs.map (·.value? params') := by
  induction as generalizing bs with
  | nil =>
      cases bs with
      | nil => exact absurd apart (by simp [segmentsApart])
      | cons b bs => simp
  | cons a as ih =>
      cases bs with
      | nil => simp
      | cons b bs =>
          rw [segmentsApart, Bool.or_eq_true] at apart
          intro hsame
          obtain ⟨hhead, htail⟩ := List.cons.inj hsame
          rcases apart with hrest | hclash
          · exact ih hrest htail
          · exact Segment.value?_ne_of_clashes params params' hclash hhead

/-! ## Interactions and their addresses -/

/-- What the clients of both services do: make requests and watch events. -/
inductive Interaction
  | describingJob
  | updatingJob
  | listingPendingJobs
  | startingNextJob
  | watchingJobs
  | watchingNextJob
  | gettingShadow
  | updatingShadow
  | deletingShadow
  | watchingDelta
  | watchingShadow
deriving DecidableEq

namespace Interaction

def Address : Interaction → Type
  | describingJob | updatingJob => JobAddress
  | listingPendingJobs | startingNextJob | watchingJobs | watchingNextJob => ThingAddress
  | gettingShadow | updatingShadow | deletingShadow | watchingDelta | watchingShadow =>
    ShadowAddress

instance : (i : Interaction) → TopicBinding i.Address
  | describingJob | updatingJob => inferInstanceAs (TopicBinding JobAddress)
  | listingPendingJobs | startingNextJob | watchingJobs | watchingNextJob =>
    inferInstanceAs (TopicBinding ThingAddress)
  | gettingShadow | updatingShadow | deletingShadow | watchingDelta | watchingShadow =>
    inferInstanceAs (TopicBinding ShadowAddress)

def operation : (i : Interaction) → i.Address → Operation
  | describingJob => Jobs.describing.select
  | updatingJob => Jobs.updating.select
  | listingPendingJobs => Jobs.listingPending.select
  | startingNextJob => Jobs.startingNext.select
  | watchingJobs => Jobs.executionsChanged.select
  | watchingNextJob => Jobs.nextExecutionChanged.select
  | gettingShadow => Shadow.getting.select
  | updatingShadow => Shadow.updating.select
  | deletingShadow => Shadow.deleting.select
  | watchingDelta => Shadow.deltaUpdated.select
  | watchingShadow => Shadow.updated.select

def topic (i : Interaction) (role : TopicRole) (address : i.Address) : Except TopicError String :=
  (i.operation address).topic role (TopicBinding.topicParams address)

end Interaction

structure Subject where
  interaction : Interaction
  address : interaction.Address

def Subject.topic (s : Subject) (role : TopicRole) : Except TopicError String :=
  s.interaction.topic role s.address

/-! ## The templates of all interactions -/

namespace Interaction

def all : List Interaction :=
  [describingJob, updatingJob, listingPendingJobs, startingNextJob, watchingJobs, watchingNextJob,
    gettingShadow, updatingShadow, deletingShadow, watchingDelta, watchingShadow]

theorem mem_all (i : Interaction) : i ∈ all := by
  cases i <;> decide

def kind : Interaction → OperationKind
  | watchingJobs | watchingNextJob | watchingDelta | watchingShadow => .event
  | _ => .requestResponse

def isNamed : (i : Interaction) → i.Address → Bool
  | gettingShadow, address => ShadowAddress.shadowName address |>.isSome
  | updatingShadow, address => ShadowAddress.shadowName address |>.isSome
  | deletingShadow, address => ShadowAddress.shadowName address |>.isSome
  | watchingDelta, address => ShadowAddress.shadowName address |>.isSome
  | watchingShadow, address => ShadowAddress.shadowName address |>.isSome
  | _, _ => false

def jobSegments (below : List Segment) : List Segment :=
  .literal "$aws" :: .literal "things" :: .placeholder "thingName" :: .literal "jobs" :: below

def shadowSegments (named : Bool) (below : List Segment) : List Segment :=
  .literal "$aws" :: .literal "things" :: .placeholder "thingName" :: .literal "shadow" ::
    if named then .literal "name" :: .placeholder "shadowName" :: below else below

def segments : Interaction → Bool → List Segment
  | describingJob, _ => jobSegments [.placeholder "jobId", .literal "get"]
  | updatingJob, _ => jobSegments [.placeholder "jobId", .literal "update"]
  | listingPendingJobs, _ => jobSegments [.literal "get"]
  | startingNextJob, _ => jobSegments [.literal "start-next"]
  | watchingJobs, _ => jobSegments [.literal "notify"]
  | watchingNextJob, _ => jobSegments [.literal "notify-next"]
  | gettingShadow, named => shadowSegments named [.literal "get"]
  | updatingShadow, named => shadowSegments named [.literal "update"]
  | deletingShadow, named => shadowSegments named [.literal "delete"]
  | watchingDelta, named => shadowSegments named [.literal "update", .literal "delta"]
  | watchingShadow, named => shadowSegments named [.literal "update", .literal "documents"]

theorem segments_job (name path : String) (kind : OperationKind) :
    Operation.segments ⟨Jobs.service, name, "$aws/things/\x7bthingName\x7d/jobs/" ++ path, kind⟩ =
      jobSegments ((levels path).filterMap Segment.ofText?) := by
  have hsplit : "$aws/things/\x7bthingName\x7d/jobs/" ++ path =
      "$aws/things/\x7bthingName\x7d/jobs" ++ "/" ++ path := by simp
  rw [Operation.segments, hsplit, levels_append, List.filterMap_append]
  rfl

theorem segments_classic (classicName namedName path : String) (kind : OperationKind) :
    (Shadow.variants classicName namedName path kind).classic.segments =
      shadowSegments false ((levels path).filterMap Segment.ofText?) := by
  have hsplit : "$aws/things/\x7bthingName\x7d/shadow/" ++ path =
      "$aws/things/\x7bthingName\x7d/shadow" ++ "/" ++ path := by simp
  rw [Shadow.variants, Operation.segments, hsplit, levels_append, List.filterMap_append]
  rfl

theorem segments_named (classicName namedName path : String) (kind : OperationKind) :
    (Shadow.variants classicName namedName path kind).named.segments =
      shadowSegments true ((levels path).filterMap Segment.ofText?) := by
  have hsplit : "$aws/things/\x7bthingName\x7d/shadow/name/\x7bshadowName\x7d/" ++ path =
      "$aws/things/\x7bthingName\x7d/shadow/name/\x7bshadowName\x7d" ++ "/" ++ path := by simp
  rw [Shadow.variants, Operation.segments, hsplit, levels_append, List.filterMap_append]
  rfl

theorem segments_select (classicName namedName path : String) (kind : OperationKind)
    (address : ShadowAddress) :
    ((Shadow.variants classicName namedName path kind).select address).segments =
      shadowSegments address.shadowName.isSome ((levels path).filterMap Segment.ofText?) := by
  unfold Shadow.Variants.select
  cases address.shadowName with
  | none => exact segments_classic _ _ _ _
  | some name => exact segments_named _ _ _ _

theorem segments_operation (i : Interaction) (address : i.Address) :
    (i.operation address).segments = i.segments (i.isNamed address) := by
  cases i with
  | describingJob => exact segments_job _ _ _
  | updatingJob => exact segments_job _ _ _
  | listingPendingJobs => exact segments_job _ _ _
  | startingNextJob => exact segments_job _ _ _
  | watchingJobs => exact segments_job _ _ _
  | watchingNextJob => exact segments_job _ _ _
  | gettingShadow => exact segments_select _ _ _ _ _
  | updatingShadow => exact segments_select _ _ _ _ _
  | deletingShadow => exact segments_select _ _ _ _ _
  | watchingDelta => exact segments_select _ _ _ _ _
  | watchingShadow => exact segments_select _ _ _ _ _

theorem kind_operation (i : Interaction) (address : i.Address) :
    (i.operation address).kind = i.kind := by
  have hselect : ∀ (v : Shadow.Variants) (a : ShadowAddress),
      v.classic.kind = v.named.kind → (v.select a).kind = v.named.kind := by
    intro v a hkind
    unfold Shadow.Variants.select
    split
    · rfl
    · exact hkind
  cases i with
  | gettingShadow => exact hselect _ _ rfl
  | updatingShadow => exact hselect _ _ rfl
  | deletingShadow => exact hselect _ _ rfl
  | watchingDelta => exact hselect _ _ rfl
  | watchingShadow => exact hselect _ _ rfl
  | _ => rfl

/-- Any two topics are apart, unless interaction, template and role are the same. -/
theorem segments_apart : ∀ i ∈ all, ∀ i' ∈ all, ∀ named named' : Bool,
    ∀ role ∈ TopicRole.all, ∀ role' ∈ TopicRole.all,
      i.kind.supports role = true → i'.kind.supports role' = true →
        (i = i' ∧ i.segments named = i'.segments named' ∧ role = role') ∨
          segmentsApart (i.segments named ++ role.segments)
            (i'.segments named' ++ role'.segments) = true := by
  decide +kernel

/-! ## Reading the address off the parameters -/

end Interaction

theorem TopicRole.mem_all (role : TopicRole) : role ∈ TopicRole.all := by
  cases role <;> decide

section

variable {Address : Type} [TopicBinding Address]

def SameValues (segments : List Segment) (a b : Address) : Prop :=
  segments.map (·.value? (TopicBinding.topicParams a)) =
    segments.map (·.value? (TopicBinding.topicParams b))

theorem SameValues.get? {segments : List Segment} {a b : Address} (same : SameValues segments a b)
    (name : String) (asked : .placeholder name ∈ segments) :
    (TopicBinding.topicParams a).get? name = (TopicBinding.topicParams b).get? name :=
  List.map_inj_left.mp same (.placeholder name) asked

end

namespace Interaction

theorem jobAddress_eq {a b : JobAddress} {below : List Segment}
    (same : SameValues (jobSegments (.placeholder "jobId" :: below)) a b) : a = b := by
  have hthing : a.thingName = b.thingName := same.get? "thingName" (by simp [jobSegments])
  have hjob : a.jobId = b.jobId := same.get? "jobId" (by simp [jobSegments])
  cases a
  cases b
  simp_all

theorem thingAddress_eq {a b : ThingAddress} {below : List Segment}
    (same : SameValues (jobSegments below) a b) : a = b := by
  have hthing : a.thingName = b.thingName := same.get? "thingName" (by simp [jobSegments])
  cases a
  cases b
  simp_all

theorem shadowSegments_inj {named named' : Bool} {below : List Segment}
    (same : shadowSegments named below = shadowSegments named' below) : named = named' := by
  have hlength := congrArg List.length same
  cases named <;> cases named' <;> simp [shadowSegments] at hlength ⊢
  omega

/-- A classic template takes no name of a shadow, but it is picked only where the
address has none. -/
theorem shadowAddress_eq {a b : ShadowAddress} {below : List Segment}
    (template : shadowSegments a.shadowName.isSome below =
      shadowSegments b.shadowName.isSome below)
    (same : SameValues (shadowSegments a.shadowName.isSome below) a b) : a = b := by
  have hthing : a.thingName = b.thingName :=
    same.get? "thingName" (by simp [shadowSegments])
  have hvariant := shadowSegments_inj template
  have hshadow : a.shadowName = b.shadowName := by
    cases hname : a.shadowName with
    | none =>
        rw [hname] at hvariant
        exact (Option.isNone_iff_eq_none.mp (by simpa using hvariant.symm)).symm
    | some name =>
        rw [← hname]
        exact same.get? "shadowName" (by simp [shadowSegments, hname])
  cases a
  cases b
  simp_all

/-- The template and the values in it tell the address. -/
theorem address_eq (i : Interaction) {a b : i.Address}
    (template : i.segments (i.isNamed a) = i.segments (i.isNamed b))
    (same : SameValues (i.segments (i.isNamed a)) a b) : a = b := by
  cases i with
  | describingJob => exact jobAddress_eq same
  | updatingJob => exact jobAddress_eq same
  | listingPendingJobs => exact thingAddress_eq same
  | startingNextJob => exact thingAddress_eq same
  | watchingJobs => exact thingAddress_eq same
  | watchingNextJob => exact thingAddress_eq same
  | gettingShadow => exact shadowAddress_eq template same
  | updatingShadow => exact shadowAddress_eq template same
  | deletingShadow => exact shadowAddress_eq template same
  | watchingDelta => exact shadowAddress_eq template same
  | watchingShadow => exact shadowAddress_eq template same

end Interaction

/-! ## Topics tell what they are for -/

namespace Subject

variable {s s' : Subject} {role role' : TopicRole} {t t' : String}

/-- Equal topics are built for the same interaction, address and role. -/
theorem topic_inj (built : s.topic role = .ok t) (built' : s'.topic role' = .ok t) :
    s = s' ∧ role = role' := by
  obtain ⟨i, a⟩ := s
  obtain ⟨i', a'⟩ := s'
  have hsupports : i.kind.supports role = true := by
    rw [← i.kind_operation a]
    exact (Operation.topic_eq_ok_iff.mp built).1
  have hsupports' : i'.kind.supports role' = true := by
    rw [← i'.kind_operation a']
    exact (Operation.topic_eq_ok_iff.mp built').1
  have hvalues : (i.segments (i.isNamed a) ++ role.segments).map
        (·.value? (TopicBinding.topicParams a)) =
      (i'.segments (i'.isNamed a') ++ role'.segments).map
        (·.value? (TopicBinding.topicParams a')) := by
    rw [← i.segments_operation a, ← i'.segments_operation a']
    exact (Operation.levels_of_topic built).trans (Operation.levels_of_topic built').symm
  rcases Interaction.segments_apart i i.mem_all i' i'.mem_all (i.isNamed a) (i'.isNamed a')
    role role.mem_all role' role'.mem_all hsupports hsupports' with
      ⟨rfl, htemplate, rfl⟩ | hapart
  · refine ⟨?_, rfl⟩
    rw [htemplate, List.map_append, List.map_append] at hvalues
    have hsame := List.append_inj_left hvalues (by simp)
    rw [← htemplate] at hsame
    rw [i.address_eq htemplate hsame]
  · exact absurd hvalues (values_ne_of_apart _ _ hapart)

end Subject

/-- A topic tells what it is built for: the interaction, the variant, the role and
every parameter.  So the topic that an answer is expected on lies below the topic
of a request exactly if both are for the same subject. -/
theorem topic_tells_subject {s s' : Subject} {role role' : TopicRole} {t t' : String}
    (built : s.topic role = .ok t) (built' : s'.topic role' = .ok t') :
    (t = t' ↔ s = s' ∧ role = role') ∧
      (role = .request → ∀ suffix, role'.suffix? = some suffix →
        (t' = t ++ "/" ++ suffix ↔ s = s')) := by
  refine ⟨⟨?_, ?_⟩, ?_⟩
  · rintro rfl
    exact Subject.topic_inj built built'
  · rintro ⟨rfl, rfl⟩
    exact Except.ok.inj (built.symm.trans built')
  · rintro rfl suffix hsuffix
    have hanswer {t' : String} := Operation.topic_answer_iff built hsuffix t'
    constructor
    · intro hbelow
      have hlength := (Operation.topic_eq_ok_iff.mp built').2
      obtain ⟨-, -, -, hlength⟩ := hlength
      exact (Subject.topic_inj (hanswer.mpr ⟨hbelow, hlength⟩) built').1
    · rintro rfl
      exact (hanswer.mp built').1

/-- A job that is named like an operation. -/
theorem job_named_get :
    (Subject.topic ⟨.describingJob, ⟨some "T", some "get"⟩⟩ .request =
        .ok "$aws/things/T/jobs/get/get" ∧
      Subject.topic ⟨.listingPendingJobs, ⟨some "T"⟩⟩ .accepted =
        .ok "$aws/things/T/jobs/get/accepted") ∧
      ("$aws/things/T/jobs/get/accepted" = "$aws/things/T/jobs/get/get" ++ "/" ++ "accepted" ↔
        (⟨.describingJob, ⟨some "T", some "get"⟩⟩ : Subject) =
          ⟨.listingPendingJobs, ⟨some "T"⟩⟩) := by
  have hrequest : Subject.topic ⟨.describingJob, ⟨some "T", some "get"⟩⟩ .request =
      .ok "$aws/things/T/jobs/get/get" := by rfl
  have hanswer : Subject.topic ⟨.listingPendingJobs, ⟨some "T"⟩⟩ .accepted =
      .ok "$aws/things/T/jobs/get/accepted" := by rfl
  exact ⟨⟨hrequest, hanswer⟩, (topic_tells_subject hrequest hanswer).2 rfl _ rfl⟩

end DeviceLink
