import NameFlow.Command.Corpus
import NameFlow.Proofs.Json.Written

/-!
# Reports that are read again

A report is printed as a document. Who reads the printed text by the names of its fields finds the
files of the analysis with each tag by the letter of its role and its name, and the paths of the
files that did not parse.
-/

namespace NameFlow

set_option autoImplicit false

/-- A tag in texts: the letter of its role, and the name. -/
def Feature.shown (f : Feature) : String × String := (f.role.code.toString, f.name)

theorem Feature.render_eq_shown (f : Feature) : f.render = f.shown.1 ++ f.shown.2 := by
  apply String.toList_injective
  simp [render, shown]

namespace Command

open Json (Document)

structure ShownFile where
  path : String
  root : String
  definitions : List (String × String)
  resolutions : List (String × String)
deriving DecidableEq

def ShownFile.of (f : FileFeatures) : ShownFile :=
  ⟨f.path, f.root, f.definitions.map (·.shown), f.resolutions.map (·.shown)⟩

structure ShownReport where
  /-- The number of rounds, as written. -/
  iterations : String
  converged : Bool
  files : List ShownFile
  failed : List String
deriving DecidableEq

namespace ShownReport

section Reading

def tag? (d : Document) : Option (String × String) := do
  let role ← (← d.field? "role").text?
  let name ← (← d.field? "name").text?
  return (role, name)

def file? (d : Document) : Option ShownFile := do
  let path ← (← d.field? "path").text?
  let root ← (← d.field? "root").text?
  let definitions ← (← d.field? "definitions").items? tag?
  let resolutions ← (← d.field? "resolutions").items? tag?
  return ⟨path, root, definitions, resolutions⟩

def ofDocument? (d : Document) : Option ShownReport := do
  let iterations ← (← d.field? "iterations").literal?
  let converged ← (← d.field? "converged").flag?
  let files ← (← d.field? "files").items? file?
  let failed ← (← d.field? "failed").items? Document.text?
  return ⟨iterations, converged, files, failed⟩

/-- The report that a text holds, if it is a document with the fields of one. -/
def ofText? (text : String) : Option ShownReport :=
  (Document.parse text).toOption.bind ofDocument?

end Reading

theorem tag?_featureDocument (f : Feature) :
    tag? (TagsReport.featureDocument f) = some f.shown := by
  unfold tag? TagsReport.featureDocument
  simp [Document.field?_record, Document.text?_text, Feature.shown]

theorem file?_fileDocument (f : FileFeatures) :
    file? (TagsReport.fileDocument f) = some (.of f) := by
  unfold file? TagsReport.fileDocument
  simp [Document.field?_record, Document.text?_text, Document.items?_list tag?_featureDocument,
    ShownFile.of]

theorem ofDocument?_document (r : TagsReport) :
    ofDocument? r.document =
      some ⟨toString r.iterations, r.converged, r.files.map .of, r.failed⟩ := by
  have hfailed := Document.items?_list Document.text?_text r.failed
  rw [List.map_id'] at hfailed
  unfold ofDocument? TagsReport.document
  simp [Document.field?_record, Document.items?_list file?_fileDocument, hfailed, Document.nat,
    Document.literal?, Document.flag?]

theorem written_featureDocument (f : Feature) : (TagsReport.featureDocument f).Written :=
  .record ⟨.text _, .text _⟩

theorem written_fileDocument (f : FileFeatures) : (TagsReport.fileDocument f).Written :=
  .record ⟨.text _, .text _, .list written_featureDocument _, .list written_featureDocument _⟩

theorem written_document (r : TagsReport) : r.document.Written :=
  .record ⟨.nat _, .bool _, .list written_fileDocument _, .list .text _⟩

/-- From the text of a report all that it tells is read again. -/
theorem ofText?_render (r : TagsReport) :
    ofText? r.render = some ⟨toString r.iterations, r.converged, r.files.map .of, r.failed⟩ := by
  unfold ofText? TagsReport.render
  rw [(written_document r).parse_pretty]
  exact ofDocument?_document r

end ShownReport

end Command

end NameFlow
