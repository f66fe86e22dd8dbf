import Continuity.Link.Basic
import Continuity.Link.Target

/-! # The graph of links

The documents of a project and the links between them. Every link of a document becomes one edge,
and every internal edge to another document counts as incoming there.
-/

namespace Continuity.Link

/-- A link together with where it leads. -/
structure Edge where
  source : String
  kind : Kind
  raw : String
  target : Option String
  fragment : String
  text : String
  line : Int
  column : Int
  endLine : Option Int
  endColumn : Option Int
  deriving Repr, DecidableEq, Inhabited

/-- A document in the graph. -/
structure Graph.Node where
  path : String
  title : String
  slugs : List String
  incoming : Nat
  outgoing : List Edge
  deriving Repr, DecidableEq, Inhabited

/-- Documents and the links between them. -/
structure Graph where
  nodes : List Graph.Node
  edges : List Edge
  deriving Repr, DecidableEq, Inhabited

/-- The edge of a link in a document. -/
def Record.toEdge (link : Record) (source : String) (d : Destination) : Edge :=
  ⟨source, d.kind, link.target, d.target, d.fragment, link.text, link.line, link.column,
    link.endLine, link.endColumn⟩

namespace Graph

/-- The document with a path. -/
def find? (g : Graph) (path : String) : Option Node := g.nodes.find? (·.path == path)

/-- The paths of the documents. -/
def paths (g : Graph) : List String := g.nodes.map (·.path)

/-- There is a document with this path. -/
def has (g : Graph) (path : String) : Bool := (g.find? path).isSome

/-- Changes the document with a path. -/
def modify (g : Graph) (path : String) (f : Node → Node) : Graph :=
  { g with nodes := g.nodes.map fun n => if n.path == path then f n else n }

/-- The graph with one more document; one with the same path is replaced where it stands. -/
def addPage (g : Graph) (p : Page) : Graph :=
  let node : Node := ⟨p.path, p.title, p.headings.map (·.slug), 0, []⟩
  if g.has p.path then g.modify p.path fun _ => node
  else { g with nodes := g.nodes ++ [node] }

/-- The document that an edge arrives at, if it is another than the one that it leaves. -/
def arrival? (g : Graph) (e : Edge) : Option String :=
  if e.kind == .internal then e.target.filter fun t => g.has t && t != e.source else none

/-- The graph with one more edge, counted at the document where it arrives. -/
def addEdge (g : Graph) (e : Edge) : Graph :=
  let arrival := g.arrival? e
  let g := { g with edges := g.edges ++ [e] }
  let g := g.modify e.source fun n => { n with outgoing := n.outgoing ++ [e] }
  match arrival with
  | some target => g.modify target fun n => { n with incoming := n.incoming + 1 }
  | none => g

/-- The order of pages is that of their paths. -/
def pageLe (a b : Page) : Bool := (Path.ofString a.path).le (Path.ofString b.path)

/-- Pages in their order. -/
def sortPages (pages : List Page) : List Page := pages.mergeSort pageLe

/-- The edges of a page. -/
def edgesOf (known : List String) (exists? : String → Bool) (strict : Bool) (p : Page) :
    List Edge :=
  p.links.map fun link => link.toEdge p.path (resolve known exists? strict link.target p.path)

/-- The graph of pages, given the files that exist. -/
def ofPages (pages : List Page) (exists? : String → Bool) (strict : Bool) : Graph :=
  let pages := sortPages pages
  let g := pages.foldl addPage ⟨[], []⟩
  (pages.flatMap (edgesOf g.paths exists? strict)).foldl addEdge g

/-- The files whose existence matters to the graph, in the order of the edges. -/
def asks (pages : List Page) : List String :=
  let pages := sortPages pages
  let known := pages.map (·.path)
  pages.flatMap fun p =>
    p.links.filterMap fun link => (Reference.ofStrings link.target p.path).asks? known

/-- The edges that leave a document. -/
def edgesFrom (g : Graph) (path : String) : List Edge :=
  (g.find? path).elim [] (·.outgoing)

/-- The edges of a kind. -/
def edgesOfKind (g : Graph) (kind : Kind) : List Edge := g.edges.filter (·.kind == kind)

/-- The path that an entry point means. -/
def entryPath (entry : String) : String :=
  (Path.ofChars ((Text.trim entry.toList).dropWhile (· == '/'))).normalize.toString

/-- The order of paths as texts. -/
def textLe (a b : String) : Bool := decide (a ≤ b)

/-- The documents where reading begins: those that stand for their directories, and the entry
points. -/
def roots (g : Graph) (entryPoints : List String) : List String :=
  let entries := (entryPoints.map entryPath).filter g.has
  ((g.paths.filter isIndex) ++ entries).eraseDups.mergeSort textLe

/-- The documents to which a document links. -/
def successors (g : Graph) (path : String) : List String :=
  (g.edgesFrom path).filterMap fun e => if e.kind == .internal then e.target else none

/-- What a queue of documents leads to, among those that have not been visited. -/
def visit (g : Graph) (unvisited queue : List String) : List String :=
  match queue with
  | [] => []
  | path :: rest =>
    if path ∈ unvisited then
      path :: visit g (unvisited.erase path) (rest ++ g.successors path)
    else visit g unvisited rest
termination_by (unvisited.length, queue.length)
decreasing_by
  · rename_i h
    have := List.length_erase_of_mem h
    have := List.length_pos_of_mem h
    exact Prod.Lex.left _ _ (by omega)
  · exact Prod.Lex.right _ (by simp)

/-- The documents that some documents lead to, themselves among them. -/
def reachable (g : Graph) (roots : List String) : List String :=
  g.visit g.paths roots

/-- The documents that no root leads to. -/
def orphans (g : Graph) (entryPoints : List String) : List String :=
  let reached := g.reachable (g.roots entryPoints)
  (g.paths.filter fun p => !reached.contains p).mergeSort textLe

/-- The order of pairs of paths. -/
def pairLe (a b : String × String) : Bool :=
  decide (a.1 < b.1) || (a.1 == b.1 && decide (a.2 ≤ b.2))

/-- The edges between different documents, as pairs. -/
def connections (g : Graph) : List (String × String) :=
  g.edges.filterMap fun e => (g.arrival? e).map fun target => (e.source, target)

/-- The pairs of documents that link to each other, the smaller path first. -/
def mutualPairs (g : Graph) : List (String × String) :=
  let linked := g.connections
  (linked.filter fun (a, b) => decide (a < b) && linked.contains (b, a)).eraseDups.mergeSort pairLe

end Graph

end Continuity.Link
