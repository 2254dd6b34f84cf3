import GroupOperator.Proofs.Course
import GroupOperator.Proofs.Reception

/-!
# Which objects are materialized

An object passes through four hands before a workload is asked for: it is read as a group, kept
under a key, validated, and made into a manifest.  Each has rules of its own about what may be
missing, and together they accept what `Admissible` spells out for the object itself:

* it states no other kind;
* its metadata have a name and a namespace that are present and not made of parts;
* its specification has an image with something to see in it, and a number of members, if any, that
  is whole and within bounds.

What is asked for then says just what the object said (`Describes`), and what is refused is refused
for the first field that is at fault (`FirstFault`).
-/

namespace GroupOperator

/-! ## White space -/

namespace Text

/-- The characters that show nothing, by code point. -/
def IsWhiteSpace (c : Char) : Prop :=
  (9 ≤ c.toNat ∧ c.toNat ≤ 13) ∨ (28 ≤ c.toNat ∧ c.toNat ≤ 32) ∨ c.toNat = 133 ∨ c.toNat = 160 ∨
    c.toNat = 5760 ∨ (8192 ≤ c.toNat ∧ c.toNat ≤ 8202) ∨ c.toNat = 8232 ∨ c.toNat = 8233 ∨
    c.toNat = 8239 ∨ c.toNat = 8287 ∨ c.toNat = 12288

/-- The table of blanks has just these characters in it. -/
theorem isBlank_iff {c : Char} : isBlank c = true ↔ IsWhiteSpace c := by
  rw [isBlank, CharClass.contains, blanks, IsWhiteSpace]
  have outside : CharClass.inside [] false c.toNat = true ↔ False := by simp [CharClass.inside]
  simp (disch := decide) only [CharClass.inside_range, outside, and_false, or_false]
  omega

/-- A text that is not all blank shows something. -/
theorem not_isAllBlank_iff {cs : List Char} :
    isAllBlank cs = false ↔ ∃ c ∈ cs, ¬ IsWhiteSpace c := by
  simp only [isAllBlank, List.all_eq_false, Bool.not_eq_true, ← isBlank_iff]

end Text

/-! ## What an object says -/

namespace Value

/-- The member `field` of the part `part` of an object, where there is one. -/
def at? (part field : String) : Value → Option Value
  | .object members =>
    match member? part members with
    | some (.object inner) => member? field inner
    | _ => none
  | _ => none

/-- A value that is not made of parts. -/
def IsScalar (v : Value) : Prop :=
  (∀ items, v ≠ .list items) ∧ ∀ members, v ≠ .object members

theorem isUsable_iff {v : Value} : Key.isUsable v = true ↔ v.IsScalar := by
  cases v <;> simp [Key.isUsable, IsScalar]

end Value

namespace ServiceGroup

/-- The object states no kind other than that of service groups. -/
def HasKind (body : Value) : Prop :=
  ∃ members, body = .object members ∧
    (Value.member? "kind" members = none ∨ Value.member? "kind" members = some .null ∨
      Value.member? "kind" members = some (.str "ServiceGroup"))

/-- The metadata have that field, and what they have there counts as present. -/
def HasMetadata (field : String) (body : Value) : Prop :=
  ∃ v, body.at? "metadata" field = some v ∧ v.isPresent = true

/-- The metadata have that field, and what they have there is present and not made of parts. -/
def HasLabel (field : String) (body : Value) : Prop :=
  ∃ v, body.at? "metadata" field = some v ∧ v.isPresent = true ∧ v.IsScalar

/-- The specification has an image with something to see in it. -/
def HasImage (body : Value) : Prop :=
  ∃ s, body.at? "spec" "image" = some (.str s) ∧ ∃ c ∈ s.toList, ¬ Text.IsWhiteSpace c

/-- The number of members, if there is one, is whole and within bounds. -/
def HasCount (body : Value) : Prop :=
  body.at? "spec" "count" = none ∨
    ∃ n : Int, body.at? "spec" "count" = some (.int n) ∧ 0 ≤ n ∧ n ≤ 2147483647

/-- The objects that a workload is asked for. -/
structure Admissible (body : Value) : Prop where
  /-- It states no other kind. -/
  kind : HasKind body
  /-- It has a name that can be part of a key. -/
  name : HasLabel "name" body
  /-- It has a namespace that can. -/
  namespaceName : HasLabel "namespace" body
  /-- It has an image. -/
  image : HasImage body
  /-- It has a number of members, or says nothing about it. -/
  count : HasCount body

/-- The first field of an object that is at fault. -/
inductive FirstFault (body : Value) : String → Prop where
  /-- There is no name. -/
  | name (absent : ¬ HasMetadata "name" body) : FirstFault body "metadata.name"
  /-- There is a name, but no namespace. -/
  | namespaceName (name : HasMetadata "name" body) (absent : ¬ HasMetadata "namespace" body) :
      FirstFault body "metadata.namespace"
  /-- There are both, but there is nothing to run. -/
  | image (name : HasMetadata "name" body) (namespaceName : HasMetadata "namespace" body)
      (absent : ¬ HasImage body) : FirstFault body "spec.image"
  /-- There are all three, but their number is out of the question. -/
  | count (name : HasMetadata "name" body) (namespaceName : HasMetadata "namespace" body)
      (image : HasImage body) (wrong : ¬ HasCount body) : FirstFault body "spec.count"

/-- A workload that says what the object said. -/
structure Describes (body : Value) (w : Manifest.Workload) : Prop where
  /-- It has the object's name. -/
  name : body.at? "metadata" "name" = some w.name
  /-- It runs one container, with the object's image. -/
  image : ∃ s, body.at? "spec" "image" = some (.str s) ∧
    w.pod.containers.map (·.image) = [.str s]
  /-- It keeps as many pods as the object asks for, none if it does not ask for any. -/
  replicas : (body.at? "spec" "count").getD (.int 0) = .int w.replicas
  /-- It knows its pods by all their labels. -/
  selector : w.selector = w.pod.labels

/-! ## What is read -/

section

variable {body : Value} {g : ServiceGroup}

/-- A part that can be read has the members that the object has there. -/
theorem member?_of_part? {part field : String} {members inner : List (String × Value)}
    (h : part? part members = some inner) :
    Value.member? field inner = (Value.object members).at? part field := by
  rw [part?] at h
  rw [Value.at?]
  cases hm : Value.member? part members with
  | none =>
    simp only [hm, Option.some.injEq] at h
    rw [← h]
    rfl
  | some v =>
    rw [hm] at h
    cases v with
    | object inner' =>
      rw [Option.some.inj h]
    | _ =>
      -- whatever else it is, it is read as if it had no members, or not at all
      simp only at h
      split at h
      · cases h
      · rw [← Option.some.inj h]
        rfl

/-- A field that an object has is in a part that can be read. -/
theorem part?_of_at? {part field : String} {members : List (String × Value)} {v : Value}
    (h : (Value.object members).at? part field = some v) :
    ∃ inner, part? part members = some inner := by
  rw [Value.at?] at h
  rw [part?]
  cases hm : Value.member? part members with
  | none =>
    rw [hm] at h
    cases h
  | some whole =>
    rw [hm] at h
    cases whole with
    | object inner => exact ⟨inner, rfl⟩
    | _ => cases h

theorem isKind_iff {kind : Option Value} :
    isKind (Value.ofOption kind) = true ↔
      kind = none ∨ kind = some .null ∨ kind = some (.str "ServiceGroup") := by
  cases kind with
  | none => exact iff_of_true rfl (.inl rfl)
  | some v =>
    rw [Value.ofOption, isKind, Bool.or_eq_true, decide_eq_true_eq, decide_eq_true_eq]
    simp [Schema.kind]

/-- What a group has to do with the object it was read from. -/
structure ReadFrom (body : Value) (g : ServiceGroup) : Prop where
  /-- The object is of the right kind. -/
  kind : HasKind body
  /-- The name, the empty text standing for one that is not present. -/
  name : g.name = (Value.ofOption (body.at? "metadata" "name")).orElse (.str "")
  /-- The namespace, likewise. -/
  namespaceName :
    g.namespaceName = (Value.ofOption (body.at? "metadata" "namespace")).orElse (.str "")
  /-- The image, the empty text standing for none. -/
  image : g.image = (body.at? "spec" "image").getD (.str "")
  /-- The number of members, zero standing for none. -/
  count : g.count = (body.at? "spec" "count").getD (.int 0)

theorem readFrom_of_ofBody? (h : ofBody? body = .ok g) : ReadFrom body g := by
  cases body with
  | object members =>
    simp only [ofBody?] at h
    split at h
    · rename_i kind
      split at h
      · rename_i metadata spec hm hs
        obtain rfl := Except.ok.inj h
        exact {
          kind := ⟨members, rfl, isKind_iff.mp kind⟩
          name := member?_of_part? hm ▸ rfl
          namespaceName := member?_of_part? hm ▸ rfl
          image := member?_of_part? hs ▸ rfl
          count := member?_of_part? hs ▸ rfl }
      · cases h
    · cases h
  | _ => cases h

/-- An object of the right kind with something in its metadata and its specification can be read. -/
theorem exists_ofBody?_eq_ok {field option : String} {v u : Value} (kind : HasKind body)
    (metadata : body.at? "metadata" field = some v) (spec : body.at? "spec" option = some u) :
    ∃ g, ofBody? body = .ok g := by
  obtain ⟨members, rfl, hk⟩ := kind
  obtain ⟨fields, hm⟩ := part?_of_at? metadata
  obtain ⟨options, hs⟩ := part?_of_at? spec
  exact ⟨ofParts fields options, by simp only [ofBody?, isKind_iff.mpr hk, if_true, hm, hs]⟩

/-! ## What is validated -/

/-- Whatever is wrong with a count, the count is at fault. -/
theorem key_of_rejectCount? {v : Value} {r : Rejection} (h : rejectCount? v = some r) :
    r.key = "spec.count" := by
  cases v with
  | int n =>
    simp only [rejectCount?] at h
    split at h
    · exact Option.some.inj h ▸ rfl
    · split at h
      · exact Option.some.inj h ▸ rfl
      · cases h
  | _ => exact Option.some.inj h ▸ rfl

namespace ReadFrom

theorem isPresent_orElse_iff {o : Option Value} :
    ((Value.ofOption o).orElse (.str "")).isPresent = true ↔
      ∃ v, o = some v ∧ v.isPresent = true := by
  cases o with
  | none => simp [Value.ofOption, Value.orElse, Value.isPresent]
  | some v =>
    rw [Value.ofOption, Value.orElse]
    split
    · rename_i present
      exact iff_of_true present ⟨v, rfl, present⟩
    · rename_i absent
      refine iff_of_false (by simp [Value.isPresent]) ?_
      rintro ⟨u, hu, present⟩
      exact absent (Option.some.inj hu ▸ present)

theorem name_iff (h : ReadFrom body g) : g.name.isPresent = true ↔ HasMetadata "name" body := by
  rw [h.name, isPresent_orElse_iff, HasMetadata]

theorem namespaceName_iff (h : ReadFrom body g) :
    g.namespaceName.isPresent = true ↔ HasMetadata "namespace" body := by
  rw [h.namespaceName, isPresent_orElse_iff, HasMetadata]

theorem image_iff (h : ReadFrom body g) : isImage g.image = true ↔ HasImage body := by
  rw [h.image, HasImage]
  cases body.at? "spec" "image" with
  | none => simp [isImage]
  | some v =>
    cases v with
    | str s => simp [isImage, Text.not_isAllBlank_iff]
    | _ => simp [isImage]

theorem count_iff (h : ReadFrom body g) :
    rejectCount? g.count = none ↔ HasCount body := by
  rw [h.count, HasCount, rejectCount?_eq_none_iff]
  cases body.at? "spec" "count" with
  | none => simp [Schema.maxReplicas]
  | some v => simp [Schema.maxReplicas]

/-- A group is valid if the object it was read from has what it takes. -/
theorem isValid_iff (h : ReadFrom body g) :
    g.IsValid ↔ HasMetadata "name" body ∧ HasMetadata "namespace" body ∧ HasImage body ∧
      HasCount body := by
  rw [ServiceGroup.isValid_iff, ← rejectCount?_eq_none_iff, h.name_iff, h.namespaceName_iff,
    h.image_iff, h.count_iff]

/-- A group that is refused is refused for the first fault of the object it was read from. -/
theorem firstFault_of_reject? (h : ReadFrom body g) {r : Rejection} (hr : g.reject? = some r) :
    FirstFault body r.key := by
  rw [reject?] at hr
  -- the object's fields are gone through in the order in which the group's are judged
  by_cases name : HasMetadata "name" body
  · rw [if_neg (by simp [h.name_iff.mpr name])] at hr
    by_cases namespaceName : HasMetadata "namespace" body
    · rw [if_neg (by simp [h.namespaceName_iff.mpr namespaceName])] at hr
      by_cases image : HasImage body
      · rw [if_neg (by simp [h.image_iff.mpr image])] at hr
        have wrong : ¬ HasCount body := by
          rw [← h.count_iff, hr]
          exact Option.some_ne_none r
        rw [key_of_rejectCount? hr]
        exact .count name namespaceName image wrong
      · rw [if_pos (by simp [mt h.image_iff.mp image])] at hr
        obtain rfl := Option.some.inj hr
        exact .image name namespaceName image
    · rw [if_pos (by simp [mt h.namespaceName_iff.mp namespaceName])] at hr
      obtain rfl := Option.some.inj hr
      exact .namespaceName name namespaceName
  · rw [if_pos (by simp [mt h.name_iff.mp name])] at hr
    obtain rfl := Option.some.inj hr
    exact .name name

end ReadFrom

end

/-! ## What is kept -/

section

variable {body : Value} {g : ServiceGroup}

theorem unusable?_eq_none_iff {k : Key} :
    k.unusable? = none ↔ k.namespaceName.IsScalar ∧ k.name.IsScalar := by
  rw [Key.unusable?, ← Value.isUsable_iff, ← Value.isUsable_iff]
  cases Key.isUsable k.namespaceName <;> cases Key.isUsable k.name <;> simp

/-- A value that is present stands for itself. -/
theorem orElse_of_isPresent {v w : Value} (h : v.isPresent = true) : v.orElse w = v :=
  if_pos h

/-- A label is what is present and can be part of a key. -/
theorem hasLabel_iff {field : String} {read : Value}
    (h : read = (Value.ofOption (body.at? "metadata" field)).orElse (.str "")) :
    HasLabel field body ↔ HasMetadata field body ∧ read.IsScalar := by
  constructor
  · rintro ⟨v, hv, present, scalar⟩
    rw [hv] at h
    have same : read = v := h.trans (orElse_of_isPresent present)
    exact ⟨⟨v, hv, present⟩, same ▸ scalar⟩
  · rintro ⟨⟨v, hv, present⟩, scalar⟩
    rw [hv] at h
    have same : read = v := h.trans (orElse_of_isPresent present)
    exact ⟨v, hv, present, same ▸ scalar⟩

/-- An object is admissible if it can be read as a group that can be kept and is valid. -/
theorem admissible_iff :
    Admissible body ↔
      ∃ g, ofBody? body = .ok g ∧ (Key.ofGroup g).unusable? = none ∧ g.IsValid := by
  constructor
  · intro h
    -- a name and an image cannot be had without metadata and a specification
    obtain ⟨v, hv, -⟩ := h.name
    obtain ⟨s, hs, -⟩ := h.image
    obtain ⟨g, hg⟩ := exists_ofBody?_eq_ok h.kind hv hs
    have read := readFrom_of_ofBody? hg
    obtain ⟨name, scalarName⟩ := (hasLabel_iff read.name).mp h.name
    obtain ⟨namespaceName, scalarNamespace⟩ := (hasLabel_iff read.namespaceName).mp h.namespaceName
    exact ⟨g, hg, unusable?_eq_none_iff.mpr ⟨scalarNamespace, scalarName⟩,
      read.isValid_iff.mpr ⟨name, namespaceName, h.image, h.count⟩⟩
  · rintro ⟨g, hg, usable, valid⟩
    have read := readFrom_of_ofBody? hg
    obtain ⟨scalarNamespace, scalarName⟩ := unusable?_eq_none_iff.mp usable
    obtain ⟨name, namespaceName, image, count⟩ := read.isValid_iff.mp valid
    exact {
      kind := read.kind
      name := (hasLabel_iff read.name).mpr ⟨name, scalarName⟩
      namespaceName := (hasLabel_iff read.namespaceName).mpr ⟨namespaceName, scalarNamespace⟩
      image
      count }

/-! ## What is asked for -/

/-- The workload of a valid group says what the object said that the group was read from. -/
theorem ReadFrom.describes (h : ReadFrom body g) (valid : g.IsValid) {home : Value}
    {w : Manifest.Workload} (hw : Manifest.workload? g home = .ok w) : Describes body w := by
  obtain ⟨⟨v, hv, present⟩, -, ⟨s, hs, -⟩, -⟩ := h.isValid_iff.mp valid
  obtain ⟨count, image⟩ := Manifest.of_workload?_eq_ok valid hw
  have name : g.name = v := by
    rw [h.name, hv]
    exact orElse_of_isPresent present
  have shown : g.image = .str s := by
    rw [h.image, hs]
    rfl
  exact {
    name := by rw [hv, Manifest.name_of_workload? hw, name]
    image := ⟨s, hs, shown ▸ image⟩
    replicas := h.count.symm.trans count
    selector := by
      rw [Manifest.eq_of_workload? hw]
      rfl }

end

end ServiceGroup

namespace Reconciler

variable {σ : Type} {answer : Answering σ} {home : Value}

/-- Which workload is asked for when a group is added: its own, if the group is valid. -/
theorem createWorkload_mem_requests_handle {g : ServiceGroup} {old : Option ServiceGroup} {s : σ}
    {n : Value} {m : Manifest.Workload} :
    .createWorkload n m ∈ ((handle home ⟨.added, g, old⟩).run answer s).chronicle.requests ↔
      g.IsValid ∧ n = home ∧ Manifest.workload? g home = .ok m := by
  obtain ⟨made, levels, hmade, course⟩ := exists_course answer home ⟨.added, g, old⟩ s
  rw [Activity.requests_run, hmade]
  have own {w : Manifest.Workload} (valid : g.IsValid)
      (manifest : Manifest.workload? g home = .ok w) :
      Request.createWorkload n m = .createWorkload home w ↔
        g.IsValid ∧ n = home ∧ Manifest.workload? g home = .ok m := by
    rw [Request.createWorkload.injEq, manifest, Except.ok.injEq, eq_comm (a := m)]
    exact (and_iff_right valid).symm
  cases course with
  | rejected added invalid => exact iff_of_false List.not_mem_nil fun h => invalid h.1
  | uncreated added valid manifest failed => exact List.mem_singleton.trans (own valid manifest)
  | unowned added valid manifest created nobody =>
    exact List.mem_singleton.trans (own valid manifest)
  | owned added valid manifest created owner =>
    -- the second request is for the peer file
    refine (List.mem_cons.trans (or_iff_left fun other => ?_)).trans (own valid manifest)
    cases List.mem_singleton.mp other
  | modified modified => cases modified
  | deleted deleted => cases deleted

/-- Which workload is asked for when an object is delivered whose key is not held. -/
theorem createWorkload_mem_requests_deliver {type body : Value} {w : Watching σ}
    (presence : isPresence type = true)
    (absent : ∀ g, ServiceGroup.ofBody? body = .ok g → w.store.get? (Key.ofGroup g) = none)
    {n : Value} {m : Manifest.Workload} :
    .createWorkload n m ∈
        (Watching.deliver (.ofActivity answer (handle home)) type body w).chronicle.requests ↔
      ∃ g, ServiceGroup.ofBody? body = .ok g ∧ (Key.ofGroup g).unusable? = none ∧ g.IsValid ∧
        n = home ∧ Manifest.workload? g home = .ok m := by
  constructor
  · intro asked
    obtain ⟨store, e, accepted, asked⟩ := Watching.mem_requests_deliver_iff.mp asked
    obtain ⟨g, hb, usable, -⟩ := Store.acceptance_of_receive accepted
    rw [Store.receive_of_absent presence hb usable (absent g hb)] at accepted
    cases accepted
    exact ⟨g, hb, usable, createWorkload_mem_requests_handle.mp asked⟩
  · rintro ⟨g, hb, usable, asked⟩
    exact Watching.mem_requests_deliver_iff.mpr
      ⟨_, _, Store.receive_of_absent presence hb usable (absent g hb),
        createWorkload_mem_requests_handle.mpr asked⟩

/-- **Admission is exact and faithful.**  Say an object is delivered as being there, to a watch that
does not hold its key.  A workload is asked for if and only if the object is admissible; it is asked
for in the operator's own namespace, and it says what the object said.  If the object can be read as
a group and the group is refused, the first field of the object that is at fault is named. -/
theorem admission_exact_and_faithful (answer : Answering σ) (home type body : Value)
    (w : Watching σ) (presence : type ∈ [.null, .str "ADDED", .str "MODIFIED"])
    (absent : ∀ g, ServiceGroup.ofBody? body = .ok g → w.store.get? (Key.ofGroup g) = none) :
    let requests :=
      (Watching.deliver (.ofActivity answer (handle home)) type body w).chronicle.requests
    ((∃ n m, .createWorkload n m ∈ requests) ↔ ServiceGroup.Admissible body) ∧
    (∀ n m, .createWorkload n m ∈ requests → n = home ∧ ServiceGroup.Describes body m) ∧
    ∀ g r, ServiceGroup.ofBody? body = .ok g → g.reject? = some r →
      ServiceGroup.FirstFault body r.key := by
  have there : isPresence type = true := by
    simp only [List.mem_cons, List.not_mem_nil, or_false] at presence
    rcases presence with rfl | rfl | rfl <;> rfl
  intro requests
  refine ⟨?_, fun n m asked => ?_, fun g r hg hr => ?_⟩
  · rw [ServiceGroup.admissible_iff]
    constructor
    · rintro ⟨n, m, asked⟩
      obtain ⟨g, hg, usable, valid, -⟩ :=
        (createWorkload_mem_requests_deliver there absent).mp asked
      exact ⟨g, hg, usable, valid⟩
    · rintro ⟨g, hg, usable, valid⟩
      obtain ⟨m, manifest⟩ := Manifest.workload?_of_isValid valid home
      exact ⟨home, m, (createWorkload_mem_requests_deliver there absent).mpr
        ⟨g, hg, usable, valid, rfl, manifest⟩⟩
  · obtain ⟨g, hg, -, valid, place, manifest⟩ :=
      (createWorkload_mem_requests_deliver there absent).mp asked
    exact ⟨place, (ServiceGroup.readFrom_of_ofBody? hg).describes valid manifest⟩
  · exact (ServiceGroup.readFrom_of_ofBody? hg).firstFault_of_reject? hr

/-- Two objects at the edge: the first is named by a truth value, shows a sign behind a no-break
space and does not say how many members there are; the second has nothing but an ideographic space
to run, and less than no members. -/
def edgeBodies : Value × Value :=
  (.object [("kind", .null),
      ("metadata", .object [("name", .bool true), ("namespace", .str "team-a")]),
      ("spec", .object [("image", .str "\u00a0.")])],
    .object [("metadata", .object [("name", .str "web"), ("namespace", .str "default")]),
      ("spec", .object [("image", .str "\u3000"), ("count", .int (-1))])])

theorem edgeBodies_admission :
    (∃ m, Request.createWorkload (.str "default") m ∈
        (Watching.deliver (.ofActivity Cluster.answer (handle (.str "default"))) .null edgeBodies.1
          { outside := Cluster.empty }).chronicle.requests ∧
      ServiceGroup.Describes edgeBodies.1 m) ∧
    ¬ ServiceGroup.Admissible edgeBodies.2 ∧
    ServiceGroup.FirstFault edgeBodies.2 "spec.image" := by
  obtain ⟨admitted, faithful, -⟩ := admission_exact_and_faithful Cluster.answer (.str "default")
    .null edgeBodies.1 { outside := Cluster.empty } (by decide) (fun _ _ => rfl)
  obtain ⟨refused, -, fault⟩ := admission_exact_and_faithful Cluster.answer (.str "default") .null
    edgeBodies.2 { outside := Cluster.empty } (by decide) (fun _ _ => rfl)
  refine ⟨?_, fun h => ?_, fault _ .noImage rfl (by decide)⟩
  · have admissible : ServiceGroup.Admissible edgeBodies.1 := {
      kind := ⟨_, rfl, .inr (.inl rfl)⟩
      name := ⟨_, rfl, rfl, nofun, nofun⟩
      namespaceName := ⟨_, rfl, by decide, nofun, nofun⟩
      image := ⟨_, rfl, '.', by decide, by unfold Text.IsWhiteSpace; decide⟩
      count := .inl rfl }
    obtain ⟨n, m, asked⟩ := admitted.mpr admissible
    obtain ⟨rfl, describes⟩ := faithful n m asked
    exact ⟨m, asked, describes⟩
  · obtain ⟨n, m, asked⟩ := refused.mpr h
    have nothing : (Watching.deliver (.ofActivity Cluster.answer (handle (.str "default"))) .null
      edgeBodies.2 { outside := Cluster.empty }).chronicle.requests = [] := by decide
    rw [nothing] at asked
    cases asked

end Reconciler

end GroupOperator
