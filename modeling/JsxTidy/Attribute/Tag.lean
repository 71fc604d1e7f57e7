import JsxTidy.Attribute.Order
import JsxTidy.Attribute.Permute
import JsxTidy.Syntax.Node

/-!
# The attributes of tags
-/

namespace JsxTidy

open Syntax

namespace AttributeSlot

/-- The slot of an attribute. -/
def ofNode : Node → AttributeSlot
  | .mk .markupAttribute _ (.mk (.word name) _ _ :: _) => named name
  | .mk .markupAttribute _ _ => fixed
  | _ => spread

end AttributeSlot

/-- The order of the attributes of a tag. -/
def attributeOrder (policy : SpreadPolicy) (attributes : List Node) : List Nat :=
  AttributeSlot.canonicalOrder policy (attributes.map AttributeSlot.ofNode)

/-- The tag with its attributes in order, if that changes it. -/
def sortAttributes? (policy : SpreadPolicy) : Node → Option Node
  | .mk .openingTag span [name, types, .mk .list listSpan attributes] =>
    let order := attributeOrder policy attributes
    if isIdentity order then none
    else
      let sorted := permute attributes.toArray order.toArray
      some (.mk .openingTag span [name, types, .mk .list listSpan sorted.toList])
  | _ => none

/-- What sorting does to the attributes of a tag. -/
structure AttributeReport where
  before : List AttributeSlot
  order : List Nat
  after : List AttributeSlot
deriving DecidableEq, Repr

/-- What sorting does to attributes with some slots. -/
def AttributeReport.ofSlots (policy : SpreadPolicy) (slots : List AttributeSlot) :
    AttributeReport :=
  let order := AttributeSlot.canonicalOrder policy slots
  ⟨slots, order, (permute slots.toArray order.toArray).toList⟩

namespace Syntax.Node

mutual

/-- What sorting does to the tags in a piece of syntax, outer tags first. What lies in the
attributes of a tag is visited in their new order. -/
def attributeReports (policy : SpreadPolicy) : Node → List AttributeReport
  | .mk .openingTag _ [name, types, .mk .list _ attributes] =>
    let report := AttributeReport.ofSlots policy (attributes.map AttributeSlot.ofNode)
    let inner := permute (reportsOfEach policy attributes).toArray report.order.toArray
    report :: (attributeReports policy name ++ (attributeReports policy types ++
      inner.toList.flatten))
  | .mk _ _ parts => (reportsOfEach policy parts).flatten

/-- What sorting does to the tags in each of some pieces of syntax. -/
def reportsOfEach (policy : SpreadPolicy) : List Node → List (List AttributeReport)
  | [] => []
  | node :: rest => attributeReports policy node :: reportsOfEach policy rest

end

mutual

/-- All pieces of syntax in one, outer ones first. -/
def all : Node → List Node
  | .mk kind span parts => .mk kind span parts :: allOf parts

/-- All pieces of syntax in some, outer ones first. -/
def allOf : List Node → List Node
  | [] => []
  | node :: rest => all node ++ allOf rest

end

end Syntax.Node

end JsxTidy
