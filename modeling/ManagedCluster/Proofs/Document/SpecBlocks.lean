import Mathlib.Logic.Relation
import ManagedCluster.Proofs.Document.Overfull
import ManagedCluster.Proofs.Document.RecordBlocks
import ManagedCluster.Spec.Fields
import ManagedCluster.Storage

/-! # The blocks of specs

The blocks of a spec and of its blocks can take any form, in every mixture, and the spec that is
loaded is the same. Several blocks in the place of one are counted.
-/

namespace ManagedCluster

open ManagedCluster.Codec ManagedCluster.Field

section Codecs

variable {σ α : Type} {name : String} {codec : Codec α} {default : σ}

theorem Codec.word32_steady : word32.read.Steady :=
  fun tree _ _ same => (Decoder.natBelow_steady _ _ tree same).map_eq _

theorem Codec.word64_steady : word64.read.Steady :=
  fun tree _ _ same => (Decoder.natBelow_steady _ _ tree same).map_eq _

theorem Field.optional_fits {get : σ → Option α} {set : Option α → σ → σ}
    (steady : codec.read.Steady) :
    (optional name codec get set).Fits default ⟨none, Sets set⟩ :=
  fits_of_steady (fun _ _ => rfl) (Decoder.optional_steady steady)

section Given

variable {get : σ → α} {set : α → σ → σ} (steady : codec.read.Steady)

include steady

theorem Field.mandatory_fits : (mandatory name codec get set).Fits default ⟨none, Sets set⟩ :=
  fits_of_steady (fun _ _ => rfl) steady

theorem Field.defaulted_fits : (defaulted name codec get set).Fits default ⟨none, Sets set⟩ :=
  fits_of_steady (fun _ _ => rfl) steady

theorem Field.unlessEmpty_fits {isEmpty : α → Bool} :
    (unlessEmpty name codec isEmpty get set).Fits default ⟨none, Sets set⟩ :=
  fits_of_steady (fun _ _ => rfl) steady

end Given

theorem Spec.textsField_fits {get : σ → List String} {set : List String → σ → σ} :
    (textsField name get set).Fits default ⟨none, Sets set⟩ :=
  unlessEmpty_fits (Decoder.list_steady Decoder.text_steady)

theorem Spec.mapField_fits {get : σ → StringMap} {set : StringMap → σ → σ} :
    (mapField name get set).Fits default ⟨none, Sets set⟩ :=
  unlessEmpty_fits Decoder.stringMap_steady

end Codecs

namespace Spec

open Decoder (text_steady bool_steady list_steady)

def Disk.outline : Outline := .fields [("num_local_ssds", none), ("boot_disk_size_gb", none)]

def PreemptibleDisk.outline : Outline := .fields [("boot_disk_size_gb", none)]

def Group.outline : Outline := .fields [("num_instances", none), ("machine_type", none),
  ("disk_config", some Disk.outline), ("instance_names", none)]

def PreemptibleGroup.outline : Outline := .fields [("num_instances", none),
  ("disk_config", some PreemptibleDisk.outline), ("instance_names", none)]

def Gce.outline : Outline := .fields [("zone", none), ("network", none), ("subnetwork", none),
  ("tags", none), ("service_account", none), ("service_account_scopes", none)]

def Software.outline : Outline := .fields [("image_version", none), ("override_properties", none),
  ("properties", none)]

def Action.outline : Outline := .fields [("script", none), ("timeout_sec", none)]

def Config.parts : List (String × Option Outline) := [("delete_autogen_bucket", none),
  ("staging_bucket", none), ("bucket", none), ("gce_cluster_config", some Gce.outline),
  ("master_config", some Group.outline), ("worker_config", some Group.outline),
  ("preemptible_worker_config", some PreemptibleGroup.outline),
  ("software_config", some Software.outline), ("initialization_action", none)]

def Config.outline : Outline := .fields Config.parts

def parts : List (String × Option Outline) := [("name", none), ("project", none), ("region", none),
  ("labels", none), ("cluster_config", some Config.outline)]

/-- Where the blocks of a spec are. -/
def outline : Outline := .fields parts

theorem Disk.codec_ignoresForms : Disk.codec.IgnoresForms Disk.outline :=
  record_ignoresForms
    (.cons (optional_fits word32_steady)
    (.cons (optional_fits word32_steady) .nil))
    (by decide) (by simp)

theorem PreemptibleDisk.codec_ignoresForms :
    PreemptibleDisk.codec.IgnoresForms PreemptibleDisk.outline :=
  record_ignoresForms
    (.cons (optional_fits word32_steady) .nil)
    (by decide) (by simp)

theorem Group.codec_ignoresForms : Group.codec.IgnoresForms Group.outline :=
  record_ignoresForms
    (.cons (optional_fits word32_steady)
    (.cons (optional_fits text_steady)
    (.cons (block_fits Disk.codec_ignoresForms rfl)
    (.cons textsField_fits .nil))))
    (by decide) (by simp)

theorem PreemptibleGroup.codec_ignoresForms :
    PreemptibleGroup.codec.IgnoresForms PreemptibleGroup.outline :=
  record_ignoresForms
    (.cons (optional_fits word32_steady)
    (.cons (block_fits PreemptibleDisk.codec_ignoresForms rfl)
    (.cons textsField_fits .nil)))
    (by decide) (by simp)

theorem Gce.codec_ignoresForms : Gce.codec.IgnoresForms Gce.outline :=
  record_ignoresForms
    (.cons (optional_fits text_steady)
    (.cons (optional_fits text_steady)
    (.cons (optional_fits text_steady)
    (.cons textsField_fits
    (.cons (optional_fits text_steady)
    (.cons textsField_fits .nil))))))
    (by decide) (by simp)

theorem Software.codec_ignoresForms : Software.codec.IgnoresForms Software.outline :=
  record_ignoresForms
    (.cons (optional_fits text_steady)
    (.cons mapField_fits
    (.cons mapField_fits .nil)))
    (by decide) (by simp)

theorem Action.codec_ignoresForms : Action.codec.IgnoresForms Action.outline :=
  record_ignoresForms
    (.cons (mandatory_fits text_steady)
    (.cons (optional_fits word64_steady) .nil))
    (by decide) (by simp)

theorem Config.codec_ignoresForms : Config.codec.IgnoresForms Config.outline :=
  record_ignoresForms
    (.cons (defaulted_fits bool_steady)
    (.cons (optional_fits text_steady)
    (.cons (optional_fits text_steady)
    (.cons (block_fits Gce.codec_ignoresForms rfl)
    (.cons (block_fits Group.codec_ignoresForms rfl)
    (.cons (block_fits Group.codec_ignoresForms rfl)
    (.cons (block_fits PreemptibleGroup.codec_ignoresForms rfl)
    (.cons (block_fits Software.codec_ignoresForms rfl)
    (.cons (unlessEmpty_fits (list_steady Action.codec_ignoresForms.steady)) .nil)))))))))
    (by decide) (by simp)

theorem codec_ignoresForms : Spec.codec.IgnoresForms outline :=
  record_ignoresForms
    (.cons (mandatory_fits text_steady)
    (.cons (optional_fits text_steady)
    (.cons (defaulted_fits text_steady)
    (.cons mapField_fits
    (.cons (block_fits Config.codec_ignoresForms rfl) .nil)))))
    (by decide) (by simp)

section Text

variable {text : String} {tree : Yaml.Tree} (isRead : Yaml.read? text = some tree)

include isRead

/-- What is loaded from a text is what is read from its tree. -/
theorem ofText_eq : ofText text =
    ((codec.read ⟨.yaml, tree.anchors, []⟩ tree.root).run'
      (Yaml.referencesPerMark * tree.root.marks)).mapError fun error =>
        .cluster (.load (.decode error)) := by
  unfold ofText loadText Yaml.load
  simp only [isRead]
  generalize (codec.read ⟨.yaml, tree.anchors, []⟩ tree.root).run' _ = result
  cases result <;> rfl

theorem ofText_eq_ok_iff {spec : Spec} : ofText text = .ok spec ↔
    (codec.read ⟨.yaml, tree.anchors, []⟩ tree.root).run'
      (Yaml.referencesPerMark * tree.root.marks) = .ok spec := by
  rw [ofText_eq isRead]
  generalize (codec.read ⟨.yaml, tree.anchors, []⟩ tree.root).run' _ = result
  cases result <;> simp [Except.mapError]

end Text

/-- The forms of blocks make no difference to the spec that is loaded, from a document or from a
text, and several blocks in the place of one are counted and named. -/
theorem blocks_take_any_form :
    (∀ (dialect : Dialect) (document other : Document), document.isTree = true →
      Relation.EqvGen (Reform outline) document other →
      ∀ spec, codec.decode dialect document = .ok spec ↔ codec.decode dialect other = .ok spec) ∧
    (∀ (text other : String) (tree also : Yaml.Tree), Yaml.read? text = some tree →
      Yaml.read? other = some also → tree.root.isTree = true →
      Relation.EqvGen (Reform outline) tree.root also.root →
      ∀ spec, ofText text = .ok spec ↔ ofText other = .ok spec) ∧
    (∀ (dialect : Dialect) (document : Document) (block : String) (count : Nat) (path : List Step),
      Overfull codec (.root dialect) document 0 block count path →
      codec.decode dialect document = .error ⟨path, .repeatedBlock block count⟩) ∧
    (∀ (text : String) (tree : Yaml.Tree) (block : String) (count : Nat) (path : List Step),
      Yaml.read? text = some tree →
      Overfull codec ⟨.yaml, tree.anchors, []⟩ tree.root
        (Yaml.referencesPerMark * tree.root.marks) block count path →
      ofText text = .error (.cluster (.load (.decode ⟨path, .repeatedBlock block count⟩)))) ∧
    ∀ (dialect : Dialect) (block : String) (count : Nat),
      (DecodeCause.repeatedBlock block count).message dialect =
        "at most one " ++ block ++ " block may be specified, found " ++ toString count := by
  refine ⟨?_, ?_, ?_, ?_, fun _ _ _ => rfl⟩
  · intro dialect document other tree reforms spec
    have alike := (codec_ignoresForms.readsAlike reforms).2 tree
    exact (alike rfl).run'_iff 0 0 spec
  · intro text other tree also isRead isAlsoRead isTree reforms spec
    have alike := (codec_ignoresForms.readsAlike reforms).2 isTree
    rw [ofText_eq_ok_iff isRead, ofText_eq_ok_iff isAlsoRead]
    refine Alike.run'_iff (alike ?_) _ _ spec
    rfl
  · intro dialect document block count path overfull
    exact Decoding.run'_of_error overfull.read_eq_error
  · intro text tree block count path isRead overfull
    rw [ofText_eq isRead, Decoding.run'_of_error overfull.read_eq_error]
    rfl

/-- A cluster whose only block has these entries. -/
def withConfig (config : List (Document × Document)) : Document :=
  .map [(.text "name", .text "etl"), (.text "cluster_config", .map config)]

/-- One master, as a block. -/
def oneMaster : Document := .map [(.text "num_instances", .nat 1)]

/-- A master in a list, and an empty list of workers. -/
def inLists : Document :=
  withConfig [(.text "master_config", .list [oneMaster]), (.text "worker_config", .list [])]

def inMaps : Document := withConfig [(.text "master_config", oneMaster)]

theorem reform_withConfig {before after : List (Document × Document)}
    (inside : Reform Config.outline (.map before) (.map after)) :
    Reform outline (withConfig before) (withConfig after) := by
  have place : BlockPlace parts Config.outline fun value =>
      .withTag none (.map
        ([(.text "name", .text "etl")] ++ (.text "cluster_config", value) :: [])) :=
    .entry none _ _ rfl (by simp [parts])
  exact @Reform.within _ _ _ _ _ _ _ [] [] place rfl rfl inside

theorem reforms_inLists : Relation.EqvGen (Reform outline) inLists inMaps := by
  have place : BlockPlace Config.parts Group.outline fun value => .withTag none (.map
      ([] ++ (.text "master_config", value) :: [(.text "worker_config", .list [])])) :=
    .entry none _ _ rfl (by simp [Config.parts])
  have masterAsMap : Reform outline inLists
      (withConfig [(.text "master_config", oneMaster), (.text "worker_config", .list [])]) :=
    reform_withConfig (.form place rfl rfl)
  have workersLeftOut : Reform outline
      (withConfig [(.text "master_config", oneMaster), (.text "worker_config", .list [])])
      inMaps := by
    refine reform_withConfig ?_
    exact @Reform.entryLeftOut Config.parts Group.outline "worker_config" _ _ none
      [(.text "master_config", oneMaster)] [] rfl (by simp [Config.parts])
      (by simp [Decoder.stepOf]) rfl
  exact .trans _ _ _ (.rel _ _ masterAsMap) (.rel _ _ workersLeftOut)

/-- Two masters in the place of one. -/
def twoMasters : List (Document × Document) :=
  [(.text "master_config", .list [oneMaster, oneMaster])]

theorem overfull_twoMasters : Overfull codec (.root .yaml) (withConfig twoMasters) 0
    "master_config" 2 [.key "cluster_config", .key "master_config"] := by
  have spec : (Reading.root .yaml).follow (withConfig twoMasters) 0 = .ok (.withTag none (.map
      ([(.text "name", .text "etl")] ++ (.text "cluster_config", .map twoMasters) :: [])), 0) := rfl
  have config (reading : Reading) : reading.follow (.map twoMasters) 0 = .ok (.withTag none (.map
      ([] ++ (.text "master_config", .list [oneMaster, oneMaster]) :: [])), 0) := rfl
  refine .inMap (.entry spec rfl rfl rfl rfl) rfl rfl rfl ?_
  change Overfull _ _ _ _ _ [oneMaster, oneMaster].length _
  exact .here (.entry (config _) rfl rfl rfl rfl) rfl rfl rfl (by decide)
    (.next rfl (.next rfl (.none _ _)))

theorem blocks_take_any_form_inLists :
    codec.decode .yaml inLists =
      .ok { name := "etl", config := some { master := some { numInstances := some 1 } } } ∧
    codec.decode .yaml (withConfig twoMasters) =
      .error ⟨[.key "cluster_config", .key "master_config"], .repeatedBlock "master_config" 2⟩ := by
  obtain ⟨inAnyForm, -, several, -⟩ := blocks_take_any_form
  refine ⟨?_, several .yaml _ _ _ _ overfull_twoMasters⟩
  exact (inAnyForm .yaml inLists inMaps rfl reforms_inLists _).mpr rfl

end Spec

end ManagedCluster
