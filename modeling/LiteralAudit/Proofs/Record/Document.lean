import LiteralAudit.Proofs.Source.Document
import LiteralAudit.Record.Document

/-!
# Record types are written and read
-/

namespace LiteralAudit

open Json

theorem FieldDecl.decodes (declared : FieldDecl) :
    Decodes shape.decode 1 declared.toJson declared := by
  have fills : shape.Fills 0 [] shape.blank
      [("name", .text declared.name), ("tag", .text declared.tag)] ["tag", "name"] declared :=
    .cons rfl rfl (decodes_string declared.name)
      (.cons rfl rfl (decodes_string declared.tag) (.nil _ _))
  exact fills.decodes rfl

namespace RecordType

/-- The comments stand at positions that fit. -/
def Fits (record : RecordType) : Prop :=
  ∀ group ∈ record.comments, group.Fits

instance (record : RecordType) : Decidable record.Fits :=
  inferInstanceAs (Decidable (∀ group ∈ record.comments, group.Fits))

theorem decodes {record : RecordType} (fits : record.Fits) :
    Decodes shape.decode 6 record.toJson record := by
  have fields : Decodes (Decoder.list FieldDecl.shape.decode) 5
      (.list (record.fields.map FieldDecl.toJson)) record.fields :=
    decodes_list fun declared _ => declared.decodes.mono (by decide)
  have comments : Decodes (Decoder.list CommentGroup.decode) 5
      (.list (record.comments.map CommentGroup.toJson)) record.comments :=
    decodes_list fun group member => CommentGroup.decodes (fits group member)
  have fills : shape.Fills 5 [] shape.blank
      [("name", .ofText? record.name), ("package_name", .text record.packageName),
        ("package_path", .text record.packagePath),
        ("fields", .list (record.fields.map FieldDecl.toJson)),
        ("comments", .list (record.comments.map CommentGroup.toJson))]
      ["comments", "fields", "package_path", "package_name", "name"] record :=
    .cons rfl rfl (decodes_ofText? record.name)
      (.cons rfl rfl (decodes_string record.packageName)
        (.cons rfl rfl (decodes_string record.packagePath)
          (.cons rfl rfl fields (.cons rfl rfl comments (.nil _ _)))))
  exact fills.decodes rfl

theorem yields : Yields shape.decode Fits := by
  refine Shape.yields (by decide) ⟨?_, ?_, ?_, ?_, ?_⟩
  · exact Field.preserves_of fun record name before => before
  · exact Field.preserves_of fun record packageName before => before
  · exact Field.preserves_of fun record packagePath before => before
  · exact Field.preserves_of fun record fields before => before
  · exact CommentGroup.yields.list.preserves fun record comments _ commentsFit => commentsFit

end RecordType

end LiteralAudit
