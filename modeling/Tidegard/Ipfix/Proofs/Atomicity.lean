import Tidegard.Ipfix.Proofs.Frames

namespace Tidegard.Ipfix.Proofs.Atomicity

open List Actions Checked Tables Decoder Decoding Frames Action

variable {c : TemplateCache} {template : Template} {isOptions : Bool}

/-- The record is a withdrawal, or a template with a length and room for it. -/
def Fits (c : TemplateCache) (template : Template) : Prop :=
  template.fields.isEmpty ∨ template.minRecordLen ≠ 0 ∧ c.templates.size < maxTemplates ∧
    c.fields + template.fields.length ≤ maxTemplateFields

end Tidegard.Ipfix.Proofs.Atomicity
