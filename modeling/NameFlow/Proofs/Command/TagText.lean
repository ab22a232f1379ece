import Mathlib.Data.List.Basic
import NameFlow.Command.Corpus
import NameFlow.Proofs.Text.Line
import NameFlow.Vocabulary.PhraseSet

/-!
# Tags as text

The blocks that are printed for the inputs of a run are a text that tags can be read from. A block
starts with a line that is marked as none of tags, each feature has a line of its own, and a line
is what stands between two newlines. As long as names hold no white space and paths no newline, the
tags that are read are the features that were printed.
-/

namespace NameFlow

set_option autoImplicit false

namespace Vocabulary.PhraseSet

theorem lineTags_mark {mark : Char} (hmark : mark = '+' ∨ mark = '!') (cs : List Char) :
    lineTags (mark :: cs) = [] := by
  have hblank : Text.isBlank mark = false := by
    rcases hmark with rfl | rfl
    · decide
    · decide
  obtain ⟨rest, hrest⟩ := Text.exists_trim_cons hblank cs
  unfold lineTags
  rw [hrest]
  rcases hmark with rfl | rfl
  · rfl
  · rfl

theorem solid_code (role : Role) : Text.isBlank role.code = false := by
  cases role <;> decide

theorem unmarked_code (role : Role) : role.code ≠ '+' ∧ role.code ≠ '!' := by
  cases role <;> decide

theorem lineTags_feature {f : Feature} (h : ∀ c ∈ f.name.toList, Text.isBlank c = false) :
    lineTags (f.role.code :: f.name.toList) = [(f.role.code, f.name)] := by
  have hsolid : ∀ c ∈ f.role.code :: f.name.toList, Text.isBlank c = false :=
    List.forall_mem_cons.mpr ⟨solid_code f.role, h⟩
  obtain ⟨hplus, hmark⟩ := unmarked_code f.role
  have hwords : Text.words (f.role.code :: f.name.toList) = [f.role.code :: f.name.toList] :=
    Text.wordsFrom_of_solid hsolid []
  unfold lineTags
  rw [Text.trim_of_solid hsolid]
  split
  · rename_i heq
    cases heq
  · rename_i heq
    exact absurd (List.cons.inj heq).1 hplus
  · rename_i heq
    exact absurd (List.cons.inj heq).1 hmark
  · rw [hwords]
    simp

end Vocabulary.PhraseSet

namespace Command

open Vocabulary PhraseSet

namespace Block

/-- The features that a block shows. -/
def shown (b : Block) : List Feature := b.features.getD []

/-- The first line of a block tells whether the file has parsed. -/
def heading (b : Block) : List Char :=
  (if b.features.isSome then '+' else '!') :: ' ' :: b.path.toList

def featureLine (f : Feature) : List Char := f.role.code :: f.name.toList

/-- The lines of a block, the last of which is empty. -/
def textLines (b : Block) : List (List Char) := b.heading :: (b.shown.map featureLine ++ [[]])

/-- The path has no newline, the names of the features have no white space. -/
structure Readable (b : Block) : Prop where
  path : '\n' ∉ b.path.toList
  names : ∀ f ∈ b.shown, ∀ c ∈ f.name.toList, Text.isBlank c = false

theorem readable_iff (b : Block) :
    b.Readable ↔ '\n' ∉ b.path.toList ∧
      (b.shown.all fun f => f.name.toList.all fun c => !Text.isBlank c) = true := by
  simp only [List.all_eq_true, Bool.not_eq_true']
  exact ⟨fun h => ⟨h.path, h.names⟩, fun ⟨hpath, hnames⟩ => ⟨hpath, hnames⟩⟩

instance (b : Block) : Decidable b.Readable := decidable_of_iff' _ b.readable_iff

theorem toList_render (b : Block) : b.render.toList = b.textLines.flatMap (· ++ ['\n']) := by
  have hline : ∀ f : Feature, f.render.toList = featureLine f := fun f => String.toList_ofList
  obtain ⟨path, features⟩ := b
  cases features with
  | none => simp [render, textLines, heading, shown]
  | some features =>
    simp [render, textLines, heading, shown, String.toList_join, List.flatMap_map, hline]

theorem toList_renderAll (blocks : List Block) :
    (renderAll blocks).toList = (blocks.flatMap textLines).flatMap (· ++ ['\n']) := by
  unfold renderAll
  rw [String.toList_join, List.flatMap_map, List.flatMap_assoc]
  exact List.flatMap_congr fun b _ => toList_render b

theorem solid_featureLine {f : Feature} (h : ∀ c ∈ f.name.toList, Text.isBlank c = false) :
    ∀ c ∈ featureLine f, Text.isBlank c = false :=
  List.forall_mem_cons.mpr ⟨solid_code f.role, h⟩

variable {b : Block}

theorem Readable.lines (h : b.Readable) : ∀ l ∈ b.textLines, '\n' ∉ l := by
  intro l hl hmem
  rcases List.mem_cons.mp hl with rfl | hl
  · unfold heading at hmem
    split at hmem
    · simp [h.path] at hmem
    · simp [h.path] at hmem
  · rcases List.mem_append.mp hl with hl | hl
    · obtain ⟨f, hf, rfl⟩ := List.mem_map.mp hl
      exact absurd (solid_featureLine (h.names f hf) '\n' hmem) (by decide)
    · obtain rfl := List.mem_singleton.mp hl
      exact absurd hmem List.not_mem_nil

/-- The tags of a block's lines are its features. -/
theorem Readable.tags (h : b.Readable) :
    (b.textLines.map Text.dropReturn).flatMap lineTags =
      b.shown.map fun f => (f.role.code, f.name) := by
  have hheading : lineTags (Text.dropReturn b.heading) = [] := by
    unfold heading
    split
    · rw [Text.dropReturn_cons (by decide)]
      exact lineTags_mark (Or.inl rfl) _
    · rw [Text.dropReturn_cons (by decide)]
      exact lineTags_mark (Or.inr rfl) _
  have hfeature : ∀ f ∈ b.shown,
      lineTags (Text.dropReturn (featureLine f)) = [(f.role.code, f.name)] := by
    intro f hf
    have hsolid := solid_featureLine (h.names f hf)
    have hreturn : '\r' ∉ featureLine f := fun hmem => absurd (hsolid '\r' hmem) (by decide)
    rw [Text.dropReturn_of_not_mem hreturn]
    exact lineTags_feature (h.names f hf)
  unfold textLines
  rw [List.flatMap_map, List.flatMap_cons, hheading, List.nil_append, List.flatMap_append,
    List.flatMap_map, List.flatMap_congr hfeature, ← List.map_eq_flatMap]
  exact List.append_nil _

end Block

/-- The text of all blocks has the features of all blocks as its tags, in order, so that the
statistics of the text are those of the features. -/
theorem tags_of_renderAll {blocks : List Block} (h : ∀ b ∈ blocks, b.Readable) :
    textTags (Block.renderAll blocks) =
        (blocks.flatMap Block.shown).map (fun f => (f.role.code, f.name)) ∧
      ∀ map, ofTags map (Block.renderAll blocks) = ofFeatures map (blocks.flatMap Block.shown) := by
  have hlines : ∀ l ∈ blocks.flatMap Block.textLines, '\n' ∉ l := by
    intro l hl
    obtain ⟨b, hb, hl⟩ := List.mem_flatMap.mp hl
    exact (h b hb).lines l hl
  have htags : textTags (Block.renderAll blocks) =
      (blocks.flatMap Block.shown).map fun f => (f.role.code, f.name) := by
    unfold textTags
    rw [Block.toList_renderAll, Text.lines_of_ended hlines, List.map_flatMap, List.flatMap_assoc,
      List.map_flatMap]
    exact List.flatMap_congr fun b hb => (h b hb).tags
  refine ⟨htags, fun map => ?_⟩
  unfold ofTags ofFeatures
  rw [htags]

/-- Names that look like headings, a name that is empty, the name of a lambda and one with other
letters; a path that ends in a carriage return and one that is empty. -/
def oddBlocks : List Block :=
  [⟨"a b.py", some [⟨.typeDefined, ""⟩, ⟨.functionDefined, ":lambda:1:0"⟩, ⟨.assigned, "+x"⟩]⟩,
   ⟨"+ c.py\r", none⟩,
   ⟨"", some [⟨.variableUsed, "!d"⟩, ⟨.typeUsed, "Größe"⟩]⟩]

theorem odd_blocks_read_back :
    (∀ b ∈ oddBlocks, b.Readable) ∧
      textTags (Block.renderAll oddBlocks) =
        [('T', ""), ('F', ":lambda:1:0"), ('a', "+x"), ('v', "!d"), ('u', "Größe")] ∧
      ofTags default (Block.renderAll oddBlocks) =
        ofFeatures default (oddBlocks.flatMap Block.shown) := by
  have h : ∀ b ∈ oddBlocks, b.Readable := by decide +kernel
  obtain ⟨htags, hphrases⟩ := tags_of_renderAll h
  exact ⟨h, htags, hphrases default⟩

end Command

end NameFlow
