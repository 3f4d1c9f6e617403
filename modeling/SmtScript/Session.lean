import SmtScript.Connective
import SmtScript.Draft
import SmtScript.Stack

/-!
# Sessions

A session builds scripts step by step. It has one graph, any number of named stacks and any
number of named handles, each of which holds a term or a declared symbol. A step first builds
all its drafts, then acts, then stores its result. A step that fails leaves the session as
it was.
-/

namespace SmtScript

/-- What a name stands for. -/
inductive Handle where
  | term (term : Term)
  | declared (symbol : Declared)

/-- The term that a reference to the handle means. A function alone is no term. -/
def Handle.term? : Handle → Option Term
  | .term t => some t
  | .declared d => d.asConst?.map .atom

structure Session where
  graph : Graph
  scripts : List (String × Stack)
  handles : List (String × Handle)

namespace Session

def empty : Session :=
  ⟨.empty, [], []⟩

/-- A stack exists, without commands, as soon as it is named. -/
def stack (s : Session) (name : String) : Stack :=
  (s.scripts.lookup name).getD .empty

def handle? (s : Session) (name : String) : Option Handle :=
  s.handles.lookup name

def term? (s : Session) (name : String) : Option Term :=
  (s.handle? name).bind Handle.term?

/-- The node that the handle refers to. -/
def node? (s : Session) (name : String) : Option NodeId :=
  match s.handle? name with
  | some (.term (.node id)) => some id
  | _ => none

def setStack (s : Session) (name : String) (stack : Stack) : Session :=
  { s with scripts := (name, stack) :: s.scripts }

/-- Stores a result, where it is to be stored. -/
def remember (s : Session) (name? : Option String) (h : Handle) : Session :=
  match name? with
  | none => s
  | some name => { s with handles := (name, h) :: s.handles }

def build (s : Session) (d : Draft) : Option (Term × Graph) :=
  d.build s.term? s.graph

def buildAll (s : Session) (ds : List Draft) : Option (List Term × Graph) :=
  Draft.buildAll s.term? s.graph ds

/-- Builds the drafts of a command. -/
def buildCommand (s : Session) : Command Draft → Option (Command Term × Graph)
  | .setLogic logic => (s.build logic).map fun (t, g) => (.setLogic t, g)
  | .checkSat => some (.checkSat, s.graph)
  | .getModel => some (.getModel, s.graph)
  | .exit => some (.exit, s.graph)
  | .assert term => (s.build term).map fun (t, g) => (.assert t, g)
  | .maximize term => (s.build term).map fun (t, g) => (.maximize t, g)
  | .declareConst name sort => (s.build sort).map fun (t, g) => (.declareConst name t, g)
  | .declareFun name params result => do
      let (ts, g) ← s.buildAll params
      let (t, g) ← result.build s.term? g
      return (.declareFun name ts t, g)

end Session

/-! ## Steps and answers -/

inductive Step where
  | issue (stack : String) (command : Command Draft) (into : Option String)
  | comment (stack text : String)
  | serialize (stack : String)
  | measure (stack : String)
  | listCommands (stack : String) (depth : Nat) (mode : Layout.Mode) (named? : Option String)
  | copyStack (source target : String)
  /-- Takes hold of a command that is a form. It stays shared with the stack. -/
  | fetch (stack : String) (index : Nat) (into : Option String)
  | writeTo (stack : String) (sink : Sink)
  | store (term : Draft) (into : Option String)
  | serializeTerm (term : Draft) (depth : Nat) (mode : Layout.Mode)
  | attach (receiver : String) (child : Draft)
  | annotate (receiver text : String) (into : Option String)
  | construct (receiver : String) (connective : Connective) (args : List Draft)
      (into : Option String)
  | describe (handle : String)
  | sameNode (first second : String)
  | isFormNamed (term : Draft) (name : String)
  | compare (first second : String)
  /-- Applies a declared symbol, or, where so asked, only a function. -/
  | apply (symbol : String) (args : List Draft) (onlyFunction : Bool) (into : Option String)

/-- Why a step fails. -/
inductive Failure where
  /-- A handle does not hold what the step needs. -/
  | handle
  | build (error : BuildError)
  | halt (halt : Halt)

/-- What there is to say about a handle. -/
inductive Description where
  | declared (symbol : Declared)
  | form (name : Option String) (size : Nat)
  | expression (isEmpty : Bool)
  | atom (text : String)
  | str (content : String)
  | list (size : Nat)
  | comment (spaced : Bool)

inductive Answer where
  /-- The size of the stack after a push. -/
  | pushed (size : Nat)
  | constant (name : String) (size : Nat)
  | declared (symbol : Declared) (size : Nat)
  | text (text : String)
  | size (size : Nat)
  /-- The text of each command, and whether it is a form of the name asked for. -/
  | commands (commands : List (Except Halt String × Option Bool))
  | delivered (delivery : Except Halt Delivery)
  | stored
  /-- The children of a form after one was appended. -/
  | appended (size : Nat)
  | filled
  | annotated (note : Comment)
  | constructed (name : Option String) (size : Nat)
  | described (description : Description)
  | same (same : Bool)
  | named (named : Bool)
  | equal (equal : Bool)
  | ordered (order : Ordering)
  /-- The application is stored, also where it has no text yet. -/
  | applied (text : Except Halt String)
  /-- A constant is no function. -/
  | noFunction

namespace Session

def describe (s : Session) : Handle → Description
  | .declared d => .declared d
  | .term (.atom text) => .atom text
  | .term (.str content) => .str content
  | .term (.list items) => .list items.length
  | .term (.comment c) => .comment c.spaced
  | .term (.node id) =>
      match s.graph.node id with
      | .form name children => .form name children.length
      | .expr content => .expression content.isNone

/-- Symbols and comments are equal or not; atoms and strings also have an order. -/
def compare : Handle → Handle → Except Failure Answer
  | .declared d, .declared e => .ok (.equal (decide (d = e)))
  | .term (.comment c), .term (.comment d) => .ok (.equal (decide (c = d)))
  | .term (.atom a), .term (.atom b) => .ok (.ordered (Ord.compare a b))
  | .term (.str a), .term (.str b) => .ok (.ordered (Ord.compare a b))
  | _, _ => .error .handle

/-- What a form or an expression says after it took a child. -/
def attached (g : Graph) (id : NodeId) : Answer :=
  match g.node id with
  | .form _ children => .appended children.length
  | .expr _ => .filled

def constructed (g : Graph) (id : NodeId) : Answer :=
  match g.node id with
  | .form name children => .constructed name children.length
  | .expr _ => .filled

/-! ## The steps one by one -/

def issue (s : Session) (stack : String) (command : Command Draft) (into : Option String) :
    Except Failure Answer × Session :=
  match s.buildCommand command with
  | none => (.error .handle, s)
  | some (built, g) =>
      match (s.stack stack).issue g built with
      | .error e => (.error (.build e), s)
      | .ok (grown, g) =>
          let next := { s with graph := g }.setStack stack grown
          match built with
          | .declareConst name _ =>
              (.ok (.constant name grown.size), next.remember into (.term (.atom name)))
          | .declareFun name params _ =>
              let d := Declared.ofArity name params.length
              (.ok (.declared d grown.size), next.remember into (.declared d))
          | _ => (.ok (.pushed grown.size), next)

def attach (s : Session) (receiver : String) (child : Draft) : Except Failure Answer × Session :=
  match s.node? receiver, s.build child with
  | some id, some (term, g) =>
      match g.attach id term with
      | .error e => (.error (.build e), s)
      | .ok g => (.ok (attached g id), { s with graph := g })
  | _, _ => (.error .handle, s)

def annotate (s : Session) (receiver text : String) (into : Option String) :
    Except Failure Answer × Session :=
  match s.node? receiver with
  | none => (.error .handle, s)
  | some id =>
      match s.graph.annotate id text with
      | .error e => (.error (.build e), s)
      | .ok (note, g) =>
          (.ok (.annotated note), { s with graph := g }.remember into (.term (.comment note)))

def construct (s : Session) (receiver : String) (c : Connective) (args : List Draft)
    (into : Option String) : Except Failure Answer × Session :=
  match s.node? receiver, s.buildAll args with
  | some id, some (terms, g) =>
      match g.construct id c terms with
      | .error e => (.error (.build e), s)
      | .ok (form, g) =>
          (.ok (constructed g form), { s with graph := g }.remember into (.term (.node form)))
  | _, _ => (.error .handle, s)

def apply (s : Session) (symbol : String) (args : List Draft) (onlyFunction : Bool)
    (into : Option String) : Except Failure Answer × Session :=
  match s.handle? symbol, s.buildAll args with
  | some (.declared d), some (terms, g) =>
      match onlyFunction, d.asFunction? with
      | true, none => (.ok .noFunction, s)
      | true, some f => finish (f.apply g terms)
      | false, _ => finish (d.apply g terms)
  | _, _ => (.error .handle, s)
where
  finish : Except BuildError (Term × Graph) → Except Failure Answer × Session
    | .error e => (.error (.build e), s)
    | .ok (term, g) =>
        (.ok (.applied (g.serialize term 0 .auto)),
          { s with graph := g }.remember into (.term term))

/-- What a step only asks does not change the session. -/
def ask (s : Session) (answer : Except Failure Answer) : Except Failure Answer × Session :=
  (answer, s)

def halted {α : Type} (answer : α → Answer) : Except Halt α → Except Failure Answer
  | .error h => .error (.halt h)
  | .ok a => .ok (answer a)

def step (s : Session) : Step → Except Failure Answer × Session
  | .issue stack command into => s.issue stack command into
  | .comment stack text =>
      let grown := (s.stack stack).comment text
      (.ok (.pushed grown.size), s.setStack stack grown)
  | .serialize stack => s.ask (halted .text ((s.stack stack).serialize s.graph))
  | .measure stack => s.ask (.ok (.size (s.stack stack).size))
  | .listCommands stack depth mode named? =>
      s.ask (.ok (.commands ((s.stack stack).commands.map fun command =>
        (s.graph.serialize command depth mode, named?.map (s.graph.isFormNamed · command)))))
  | .copyStack source target =>
      (.ok (.pushed (s.stack source).size), s.setStack target (s.stack source))
  | .fetch stack index into =>
      match (s.stack stack).commands[index]? with
      | some (.node id) => (.ok .stored, s.remember into (.term (.node id)))
      | _ => (.error .handle, s)
  | .writeTo stack sink =>
      s.ask (.ok (.delivered ((s.stack stack).writeTo s.graph sink)))
  | .store term into =>
      match s.build term with
      | none => (.error .handle, s)
      | some (term, g) => (.ok .stored, { s with graph := g }.remember into (.term term))
  | .serializeTerm term depth mode =>
      match s.build term with
      | none => (.error .handle, s)
      | some (term, g) => s.ask (halted .text (g.serialize term depth mode))
  | .attach receiver child => s.attach receiver child
  | .annotate receiver text into => s.annotate receiver text into
  | .construct receiver c args into => s.construct receiver c args into
  | .describe handle =>
      match s.handle? handle with
      | none => (.error .handle, s)
      | some h => s.ask (.ok (.described (s.describe h)))
  | .sameNode first second =>
      match s.node? first, s.node? second with
      | some a, some b => s.ask (.ok (.same (a == b)))
      | _, _ => (.error .handle, s)
  | .isFormNamed term name =>
      match s.build term with
      | none => (.error .handle, s)
      | some (term, g) => s.ask (.ok (.named (g.isFormNamed name term)))
  | .compare first second =>
      match s.handle? first, s.handle? second with
      | some a, some b => s.ask (compare a b)
      | _, _ => (.error .handle, s)
  | .apply symbol args onlyFunction into => s.apply symbol args onlyFunction into

/-- The answers to the steps in turn, and the session after the last. -/
def run (s : Session) : List Step → List (Except Failure Answer) × Session
  | [] => ([], s)
  | first :: rest =>
      let (answer, next) := s.step first
      let (answers, last) := next.run rest
      (answer :: answers, last)

end Session

end SmtScript
