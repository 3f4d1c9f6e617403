import SmtScript.Graph
import SmtScript.Numeral

/-!
# Drafts

A draft describes a term before it is built: leaves, and forms and expressions that are still
to be made. It may refer to terms that exist already, by the names of their handles. Building
a draft only adds nodes to the graph.
-/

namespace SmtScript

inductive Draft where
  | atom (text : String)
  | sort (sort : BuiltInSort)
  | num (number : Numeral)
  | str (content : String)
  | list (items : List Draft)
  | comment (comment : Comment)
  /-- A new form, or a new stub where there is no name. -/
  | form (name : Option String) (args : List Draft)
  | emptyExpr
  | expr (content : Draft)
  /-- The term that a handle holds. It is shared and not copied. -/
  | ref (handle : String)

instance : Inhabited Draft := ⟨.emptyExpr⟩

mutual

/-- The term of a draft and the graph with its new nodes, unless a handle holds no term. -/
def Draft.build (lookup : String → Option Term) (g : Graph) : Draft → Option (Term × Graph)
  | .atom text => some (.atom text, g)
  | .sort s => some (s.term, g)
  | .num n => some (n.term, g)
  | .str content => some (.str content, g)
  | .list items =>
      match Draft.buildAll lookup g items with
      | none => none
      | some (terms, grown) => some (.list terms, grown)
  | .comment c => some (.comment c, g)
  | .form name args =>
      match Draft.buildAll lookup g args with
      | none => none
      | some (terms, grown) =>
          let (id, grown) := grown.add (.form name terms)
          some (.node id, grown)
  | .emptyExpr =>
      let (id, grown) := g.add (.expr none)
      some (.node id, grown)
  | .expr content =>
      match Draft.build lookup g content with
      | none => none
      | some (term, grown) =>
          let (id, grown) := grown.add (.expr (some term))
          some (.node id, grown)
  | .ref handle => (lookup handle).map (·, g)

def Draft.buildAll (lookup : String → Option Term) (g : Graph) :
    List Draft → Option (List Term × Graph)
  | [] => some ([], g)
  | draft :: rest =>
      match Draft.build lookup g draft with
      | none => none
      | some (term, grown) =>
          match Draft.buildAll lookup grown rest with
          | none => none
          | some (terms, grown) => some (term :: terms, grown)

end

end SmtScript
