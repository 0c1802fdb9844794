import Fleet.Proofs.Table
import Fleet.Scaleway.Server

/-!
# What labels keep

A server that carries the labels of a batch and a template, in whatever order, is a node of that
batch with the descriptions of that template. The three kinds of labels start differently, and none
of the starts begins another one, so a label is read as what it was written for, whatever the text
behind its start is. A description is cut at its first equals sign, and no name of a description
has one.
-/

namespace Fleet.Scaleway

variable {labels : List String} {tag : String} {template : Template} {server : Server}

/-! ## Labels of each kind -/

theorem textAfter_batchLabel (tag : String) :
    Text.textAfter batchLead (batchLabel tag) = some tag :=
  Text.textAfter_append batchLead tag

theorem descriptionLabel_eq (name value : String) :
    descriptionLabel name value = descriptionLead ++ (name ++ "=" ++ value) := by
  simp only [descriptionLabel, String.append_assoc]

/-- No label of a key or a description names a batch. -/
theorem textAfter_keyLabel (publicKey : String) :
    Text.textAfter batchLead (keyLabel publicKey) = none :=
  Text.textAfter_append_eq_none _ (by decide)

theorem textAfter_descriptionLabel (name value : String) :
    Text.textAfter batchLead (descriptionLabel name value) = none := by
  rw [descriptionLabel_eq]
  exact Text.textAfter_append_eq_none _ (by decide)

/-- A label that does not start as a description holds none. -/
theorem descriptionOf_eq_none
    {label : String}
    (otherwise : Text.textAfter descriptionLead label = none) :
    descriptionOf label = none := by
  rw [descriptionOf, otherwise]
  rfl

theorem descriptionOf_batchLabel (tag : String) : descriptionOf (batchLabel tag) = none :=
  descriptionOf_eq_none (Text.textAfter_append_eq_none _ (by decide))

theorem descriptionOf_keyLabel (publicKey : String) : descriptionOf (keyLabel publicKey) = none :=
  descriptionOf_eq_none (Text.textAfter_append_eq_none _ (by decide))

/-- A description is read as it was written when its name has no equals sign. -/
theorem descriptionOf_descriptionLabel
    {name : String}
    (plain : '=' ∉ name.toList)
    (value : String) :
    descriptionOf (descriptionLabel name value) = some (name, value) := by
  have cut : Text.cutAtFirst '=' (name ++ "=" ++ value).toList =
      some (name.toList, value.toList) :=
    Text.cutAtFirst_eq_some_iff.2 ⟨by simp, plain⟩
  rw [descriptionOf, descriptionLabel_eq, Text.textAfter_append]
  show (Text.cutAtFirst '=' (name ++ "=" ++ value).toList).bind _ = _
  rw [cut]
  show some (String.ofList name.toList, String.ofList value.toList) = _
  rw [String.ofList_toList, String.ofList_toList]

/-! ## The labels of a template -/

theorem labelsFor_eq
    (tag : String)
    (template : Template) :
    labelsFor tag template = [batchLabel tag] ++ template.options.publicKey.toList.map keyLabel ++
      template.metadata.entries.map fun entry => descriptionLabel entry.1 entry.2 := rfl

/-- The names of descriptions have no equals sign. -/
theorem plain_of_mem_metadata
    {entry : String × String}
    (listed : entry ∈ template.metadata.entries) :
    '=' ∉ entry.1.toList := by
  have named : entry.1 ∈ template.metadata.keys := List.mem_map.2 ⟨entry, listed, rfl⟩
  rw [Template.metadata, Table.mem_keys_ofList_iff, Template.descriptions] at named
  split at named
  · have plain : ∀ name ∈ ["image", "location", "os", "size"], '=' ∉ name.toList := by decide
    exact plain entry.1 named
  · cases named

/-- The labels of a node name one batch. -/
theorem filterMap_batch
    (tag : String)
    (template : Template) :
    (labelsFor tag template).filterMap (Text.textAfter batchLead) = [tag] := by
  have noKey : ∀ key ∈ template.options.publicKey.toList,
      (Text.textAfter batchLead ∘ keyLabel) key = none := by
    intro key _
    rw [Function.comp_apply, textAfter_keyLabel]
  have noDescription : ∀ entry ∈ template.metadata.entries,
      (Text.textAfter batchLead ∘ fun entry => descriptionLabel entry.1 entry.2) entry =
        none := by
    intro entry _
    rw [Function.comp_apply, textAfter_descriptionLabel]
  rw [labelsFor_eq, List.filterMap_append, List.filterMap_append, List.filterMap_map,
    List.filterMap_map, List.filterMap_eq_nil_iff.2 noKey,
    List.filterMap_eq_nil_iff.2 noDescription]
  simp [textAfter_batchLabel]

/-- The labels of a node give back the descriptions in their order. -/
theorem filterMap_descriptionOf
    (tag : String)
    (template : Template) :
    (labelsFor tag template).filterMap descriptionOf = template.metadata.entries := by
  have noKey : ∀ key ∈ template.options.publicKey.toList,
      (descriptionOf ∘ keyLabel) key = none := by
    intro key _
    rw [Function.comp_apply, descriptionOf_keyLabel]
  have each : ∀ entry ∈ template.metadata.entries,
      (descriptionOf ∘ fun entry => descriptionLabel entry.1 entry.2) entry = some entry := by
    intro entry listed
    rw [Function.comp_apply, descriptionOf_descriptionLabel (plain_of_mem_metadata listed)]
  rw [labelsFor_eq, List.filterMap_append, List.filterMap_append, List.filterMap_map,
    List.filterMap_map, List.filterMap_eq_nil_iff.2 noKey, List.filterMap_congr each,
    List.filterMap_some]
  simp [descriptionOf_batchLabel]

/-- The order of labels matters neither for the batch nor for the descriptions. -/
theorem batchOf_of_perm (reordered : labels.Perm (labelsFor tag template)) :
    batchOf labels = some tag := by
  have batches := reordered.filterMap (Text.textAfter batchLead)
  rw [filterMap_batch, List.perm_singleton] at batches
  rw [batchOf, ← List.head?_filterMap, batches, List.head?_cons]

theorem descriptionsOf_of_perm (reordered : labels.Perm (labelsFor tag template)) :
    descriptionsOf labels = template.metadata := by
  have descriptions := reordered.filterMap descriptionOf
  rw [filterMap_descriptionOf] at descriptions
  rw [descriptionsOf, Table.ofList_eq_of_perm template.metadata.nodup_keys descriptions,
    Table.ofList_entries]

/-- A server with the labels that were written for a batch and a template, in whatever order, is a
node of exactly that batch with exactly the descriptions of that template. -/
theorem toNode_recovers_batch_and_descriptions
    (reordered : server.labels.Perm (labelsFor tag template))
    (login : Option Credentials) :
    ∃ node, server.toNode login = some node ∧ node.tag = tag ∧
      node.metadata = template.metadata := by
  have batch : server.batch = some tag := batchOf_of_perm reordered
  rw [Server.toNode, batch]
  exact ⟨_, rfl, rfl, descriptionsOf_of_perm reordered⟩

/-- A template whose names and key look like labels themselves. -/
def maskedTemplate : Template where
  image := ⟨"cumulus-tag=other", "", .unrecognized, "", "x86_64", "1", none⟩
  size := ⟨"a=b:c", 1, 1, 1, []⟩
  location := .root "cumulus-meta:os=" ""
  options := { publicKey := some "cumulus-tag=key cumulus-meta:os=key", includesMetadata := true }

/-- The labels of the template for a batch that looks like a description, last label first. -/
def maskedServer : Server :=
  { id := "1", state := "running", zone := "z"
    labels := (labelsFor "cumulus-meta:image=" maskedTemplate).reverse }

/-- Text that looks like a label stays what it is. -/
theorem masked_text_recovered :
    maskedServer.labels.Perm (labelsFor "cumulus-meta:image=" maskedTemplate) ∧
      ∃ node, maskedServer.toNode none = some node ∧ node.tag = "cumulus-meta:image=" ∧
        node.metadata.find? "image" = some "cumulus-tag=other" ∧
        node.metadata.find? "size" = some "a=b:c" := by
  have reordered : maskedServer.labels.Perm (labelsFor "cumulus-meta:image=" maskedTemplate) :=
    List.reverse_perm _
  obtain ⟨node, made, batch, descriptions⟩ :=
    toNode_recovers_batch_and_descriptions reordered none
  refine ⟨reordered, node, made, batch, ?_, ?_⟩ <;> rw [descriptions] <;> decide +kernel

end Fleet.Scaleway
