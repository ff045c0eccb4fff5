import ManagedCluster.Proofs.Document.Records
import ManagedCluster.Reconcile
import ManagedCluster.Report.Fields
import ManagedCluster.Storage

/-! # Written documents load back

Every field of a spec, of a state and of the provider's messages is left out exactly where its
default is what a reader fills in, so each of these records is read back as it was. A block without
entries is written as an empty map and not left out.
-/

namespace ManagedCluster

open ManagedCluster.Codec ManagedCluster.Field

section Collections

variable {σ α : Type} {name : String} {default : σ}

theorem Field.unlessNil_restores {item : Codec α} {get : σ → List α} {set : List α → σ → σ}
    (faithful : item.Faithful) (nil : set [] default = default) :
    (unlessEmpty name (list item) List.isEmpty get set).Restores default
      fun record => set (get record) := by
  refine unlessEmpty_restores (list_faithful faithful) ?_
  intro values empty
  rw [List.isEmpty_iff.mp empty, nil]

theorem Spec.textsField_restores {get : σ → List String} {set : List String → σ → σ}
    (nil : set [] default = default) :
    (textsField name get set).Restores default fun record => set (get record) :=
  unlessNil_restores text_faithful nil

theorem Spec.mapField_restores {get : σ → StringMap} {set : StringMap → σ → σ}
    (empty : set .empty default = default) :
    (mapField name get set).Restores default fun record => set (get record) := by
  refine unlessEmpty_restores stringMap_faithful ?_
  intro map isEmpty
  rw [StringMap.isEmpty_iff.mp isEmpty, empty]

theorem Field.unlessNoText_restores {get : σ → String} {set : String → σ → σ}
    (empty : set "" default = default) :
    (unlessEmpty name text String.isEmpty get set).Restores default
      fun record => set (get record) := by
  refine unlessEmpty_restores text_faithful ?_
  intro value isEmpty
  rw [String.isEmpty_iff.mp isEmpty, empty]

theorem Field.ifSet_restores {get : σ → Bool} {set : Bool → σ → σ}
    (off : set false default = default) :
    (unlessEmpty name bool (!·) get set).Restores default fun record => set (get record) := by
  refine unlessEmpty_restores bool_faithful ?_
  intro value isOff
  rw [Bool.not_eq_true' value |>.mp isOff, off]

end Collections

/-! ## Specs -/

namespace Spec

theorem Disk.codec_faithful : Disk.codec.Faithful :=
  record_faithful
    (.cons (optional_restores word32_faithful rfl)
    (.cons (optional_restores word32_faithful rfl) .nil))
    (by decide) (by simp) (fun _ => rfl)

theorem PreemptibleDisk.codec_faithful : PreemptibleDisk.codec.Faithful :=
  record_faithful
    (.cons (optional_restores word32_faithful rfl) .nil)
    (by decide) (by simp) (fun _ => rfl)

theorem Group.codec_faithful : Group.codec.Faithful :=
  record_faithful
    (.cons (optional_restores word32_faithful rfl)
    (.cons (optional_restores text_faithful rfl)
    (.cons (block_restores Disk.codec_faithful rfl fun _ => ⟨_, rfl⟩)
    (.cons (textsField_restores rfl) .nil))))
    (by decide) (by simp) (fun _ => rfl)

theorem PreemptibleGroup.codec_faithful : PreemptibleGroup.codec.Faithful :=
  record_faithful
    (.cons (optional_restores word32_faithful rfl)
    (.cons (block_restores PreemptibleDisk.codec_faithful rfl fun _ => ⟨_, rfl⟩)
    (.cons (textsField_restores rfl) .nil)))
    (by decide) (by simp) (fun _ => rfl)

theorem Gce.codec_faithful : Gce.codec.Faithful :=
  record_faithful
    (.cons (optional_restores text_faithful rfl)
    (.cons (optional_restores text_faithful rfl)
    (.cons (optional_restores text_faithful rfl)
    (.cons (textsField_restores rfl)
    (.cons (optional_restores text_faithful rfl)
    (.cons (textsField_restores rfl) .nil))))))
    (by decide) (by simp) (fun _ => rfl)

theorem Software.codec_faithful : Software.codec.Faithful :=
  record_faithful
    (.cons (optional_restores text_faithful rfl)
    (.cons (mapField_restores rfl)
    (.cons (mapField_restores rfl) .nil)))
    (by decide) (by simp) (fun _ => rfl)

theorem Action.codec_faithful : Action.codec.Faithful :=
  record_faithful
    (.cons (mandatory_restores text_faithful)
    (.cons (optional_restores word64_faithful rfl) .nil))
    (by decide) (by simp) (fun _ => rfl)

theorem Config.codec_faithful : Config.codec.Faithful :=
  record_faithful
    (.cons (defaulted_restores bool_faithful)
    (.cons (optional_restores text_faithful rfl)
    (.cons (optional_restores text_faithful rfl)
    (.cons (block_restores Gce.codec_faithful rfl fun _ => ⟨_, rfl⟩)
    (.cons (block_restores Group.codec_faithful rfl fun _ => ⟨_, rfl⟩)
    (.cons (block_restores Group.codec_faithful rfl fun _ => ⟨_, rfl⟩)
    (.cons (block_restores PreemptibleGroup.codec_faithful rfl fun _ => ⟨_, rfl⟩)
    (.cons (block_restores Software.codec_faithful rfl fun _ => ⟨_, rfl⟩)
    (.cons (unlessNil_restores Action.codec_faithful rfl) .nil)))))))))
    (by decide) (by simp) (fun _ => rfl)

theorem codec_faithful : Spec.codec.Faithful :=
  record_faithful
    (.cons (mandatory_restores text_faithful)
    (.cons (optional_restores text_faithful rfl)
    (.cons (defaulted_restores text_faithful)
    (.cons (mapField_restores rfl)
    (.cons (block_restores Config.codec_faithful rfl fun _ => ⟨_, rfl⟩) .nil)))))
    (by decide) (by simp) (fun _ => rfl)

end Spec

theorem ClusterState.codec_faithful : ClusterState.codec.Faithful :=
  record_faithful
    (.cons (optional_restores text_faithful rfl)
    (.cons (optional_restores Spec.codec_faithful rfl) .nil))
    (by decide) (by simp) (fun _ => rfl)

/-! ## Messages of the provider -/

namespace Report

open Spec (textsField_restores mapField_restores)

theorem Disk.codec_faithful : Disk.codec.Faithful :=
  record_faithful
    (.cons (optional_restores word32_faithful rfl)
    (.cons (optional_restores word32_faithful rfl) .nil))
    (by decide) (by simp) (fun _ => rfl)

theorem Group.codec_faithful : Group.codec.Faithful :=
  record_faithful
    (.cons (optional_restores word32_faithful rfl)
    (.cons (textsField_restores rfl)
    (.cons (optional_restores text_faithful rfl)
    (.cons (optional_restores Disk.codec_faithful rfl)
    (.cons (ifSet_restores rfl) .nil)))))
    (by decide) (by simp) (fun _ => rfl)

theorem Gce.codec_faithful : Gce.codec.Faithful :=
  record_faithful
    (.cons (optional_restores text_faithful rfl)
    (.cons (optional_restores text_faithful rfl)
    (.cons (optional_restores text_faithful rfl)
    (.cons (textsField_restores rfl)
    (.cons (optional_restores text_faithful rfl)
    (.cons (textsField_restores rfl) .nil))))))
    (by decide) (by simp) (fun _ => rfl)

theorem Software.codec_faithful : Software.codec.Faithful :=
  record_faithful
    (.cons (optional_restores text_faithful rfl)
    (.cons (mapField_restores rfl) .nil))
    (by decide) (by simp) (fun _ => rfl)

theorem Action.codec_faithful : Action.codec.Faithful :=
  record_faithful
    (.cons (mandatory_restores text_faithful)
    (.cons (optional_restores text_faithful rfl) .nil))
    (by decide) (by simp) (fun _ => rfl)

theorem Config.codec_faithful : Config.codec.Faithful :=
  record_faithful
    (.cons (optional_restores text_faithful rfl)
    (.cons (optional_restores Gce.codec_faithful rfl)
    (.cons (optional_restores Group.codec_faithful rfl)
    (.cons (optional_restores Group.codec_faithful rfl)
    (.cons (optional_restores Group.codec_faithful rfl)
    (.cons (optional_restores Software.codec_faithful rfl)
    (.cons (unlessNil_restores Action.codec_faithful rfl) .nil)))))))
    (by decide) (by simp) (fun _ => rfl)

theorem codec_faithful : Report.codec.Faithful :=
  record_faithful
    (.cons (unlessNoText_restores rfl)
    (.cons (unlessNoText_restores rfl)
    (.cons (optional_restores Config.codec_faithful rfl)
    (.cons (mapField_restores rfl)
    (.cons (optional_restores text_faithful rfl) .nil)))))
    (by decide) (by simp) (fun _ => rfl)

end Report

theorem Status.codec_faithful : Status.codec.Faithful :=
  record_faithful
    (.cons (defaulted_restores int32_faithful)
    (.cons (defaulted_restores text_faithful) .nil))
    (by decide) (by simp) (fun _ => rfl)

theorem Operation.codec_faithful : Operation.codec.Faithful :=
  record_faithful
    (.cons (mandatory_restores text_faithful)
    (.cons (defaulted_restores bool_faithful)
    (.cons (optional_restores Status.codec_faithful rfl) .nil)))
    (by decide) (by simp) (fun _ => rfl)

/-! ## Texts -/

/-- Reading inverts writing on the document: what is read shows it, and a mark of the start before
it is passed over. -/
structure Yaml.Inverts (document : Document) : Prop where
  shown : ∃ tree, Yaml.read? (String.ofList (Yaml.body document)) = some tree ∧
    Shows tree.root document
  marked : Yaml.read? ("---\n" ++ String.ofList (Yaml.body document)) =
    Yaml.read? (String.ofList (Yaml.body document))

namespace Yaml

variable {document : Document}

theorem inverts_of_check
    (found : (read? (String.ofList (body document))).any
      (fun tree => document.isShownBy tree.root) = true)
    (marked : read? ("---\n" ++ String.ofList (body document)) =
      read? (String.ofList (body document))) : Inverts document where
  shown := by
    obtain ⟨tree, isRead, shown⟩ := (Option.any_eq_true _ _).mp found
    exact ⟨tree, isRead, .of_isShownBy shown⟩
  marked := marked

/-- It does not matter to a reader whether the start is marked. -/
theorem Inverts.read?_write (inverts : Inverts document) (explicitStart : Bool) :
    read? (write explicitStart document) = read? (String.ofList (body document)) := by
  cases explicitStart with
  | false =>
      have same : write false document = String.ofList (body document) := String.empty_append
      rw [same]
  | true => exact inverts.marked

end Yaml

namespace Spec

theorem ofText_text {spec : Spec} (inverts : Yaml.Inverts spec.toDocument) (options : TextOptions) :
    ofText (spec.text options) = .ok spec := by
  obtain ⟨tree, isRead, shows⟩ := inverts.shown
  rw [← inverts.read?_write options.explicitStart] at isRead
  unfold ofText loadText Yaml.load text toText
  simp only [isRead, codec_faithful.reads shows]
  rfl

end Spec

/-- Whatever a spec, a state, a message of the provider or an operation holds, it is read back from
what is written for it. -/
theorem written_loads_back :
    (∀ spec : Spec, Yaml.Inverts spec.toDocument →
      ∀ options : TextOptions, Spec.ofText (spec.text options) = .ok spec) ∧
    (∀ spec : Spec, Spec.codec.decode .json (Json.ofDocument (Spec.codec.write spec)) = .ok spec) ∧
    (∀ state : ClusterState,
      ClusterState.codec.decode .json (Json.ofDocument (ClusterState.codec.write state)) =
        .ok state) ∧
    (∀ report : Report,
      Report.codec.decode .json (Json.ofDocument (Report.codec.write report)) = .ok report) ∧
    (∀ operation : Operation,
      Operation.codec.decode .json (Json.ofDocument (Operation.codec.write operation)) =
        .ok operation) :=
  ⟨fun _ inverts => Spec.ofText_text inverts, Spec.codec_faithful.decode_json,
    ClusterState.codec_faithful.decode_json, Report.codec_faithful.decode_json,
    Operation.codec_faithful.decode_json⟩

/-- A spec with blocks that hold nothing, and with a label that is a number without its quotes. -/
def Spec.sparse : Spec where
  name := "web"
  labels := .ofList [("tier", "7")]
  config := some { gce := some {}, master := some { disk := some {} } }

theorem Spec.inverts_sparse : Yaml.Inverts Spec.sparse.toDocument :=
  Yaml.inverts_of_check (by decide +kernel) (by decide +kernel)

theorem sparse_loads_back :
    Yaml.Inverts Spec.sparse.toDocument ∧
      Spec.ofText (Spec.sparse.text {}) = .ok Spec.sparse ∧
      Spec.ofText (Spec.sparse.text { explicitStart := false }) = .ok Spec.sparse := by
  have loads := written_loads_back.1 Spec.sparse Spec.inverts_sparse
  exact ⟨Spec.inverts_sparse, loads {}, loads { explicitStart := false }⟩

end ManagedCluster
