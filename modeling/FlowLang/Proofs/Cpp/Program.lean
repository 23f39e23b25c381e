import FlowLang.Proofs.Cpp.Scope

/-!
# Programs as trees

A well-nested program is a tree. It is written down by a recursion over the tree, one level deeper for each body, and
the generator, which sees the lines one by one and no tree, writes the same lines.
-/

namespace FlowLang

open Text Cpp

/-! ## Lines -/

/-- How a statement is written, without indentation. A dropped line is not written. -/
def Statement.written : Statement → List Text
  | .comment text => ["// ".toList ++ text]
  | .blockEnd => ["\x7d".toList]
  | .define signature => [signature.declaration ++ " \x7b".toList]
  | .returnValue value => ["return ".toList ++ (translate value).text ++ ";".toList]
  | .say value => ["std::cout << ".toList ++ (translate value).text ++ " << std::endl;".toList]
  | .bind name value => ["auto ".toList ++ name ++ " = ".toList ++ (translate value).text ++ ";".toList]
  | .dropped _ => []
  | .ifThen condition => ["if (".toList ++ (translate condition).text ++ ") \x7b".toList]
  | .elseBranch => ["\x7d else \x7b".toList]
  | .loopTimes count => ["for (int _i = 0; _i < ".toList ++ (translate count).text ++ "; _i++) \x7b".toList]
  | .whileDo condition => ["while (".toList ++ (translate condition).text ++ ") \x7b".toList]
  | .grow name => [name ++ " *= ".toList ++ "1.618033988749895".toList ++ ";".toList]
  | .breakLoop => ["break;".toList]
  | .continueLoop => ["continue;".toList]
  | .expression text => [(translate text).text ++ ";".toList]

theorem Statement.code_eq_written (s : Statement) : s.code = s.written := by
  cases s <;> rfl

/-! ## Trees -/

/-- A statement that leaves the open blocks as they are. -/
structure Simple where
  statement : Statement
  stays : statement.effect = .stays

/-- A statement that opens a block. -/
structure Opener where
  statement : Statement
  kind : BlockKind
  opens : statement.effect = .opens kind

/-- A part of a program without definitions. -/
inductive Node where
  | simple (s : Simple)
  | block (opener : Opener) (body : List Node)
  | branch (condition : Text) (body other : List Node)

/-- A part of a program at its top level. -/
inductive Item where
  | node (tree : Node)
  | definition (signature : Signature) (body : List Node)

namespace Node

mutual
/-- The statements of a node in the order of their lines. -/
def flatten : Node → List Statement
  | .simple s => [s.statement]
  | .block opener body => opener.statement :: (flattenAll body ++ [.blockEnd])
  | .branch condition body other =>
    .ifThen condition :: (flattenAll body ++ .elseBranch :: (flattenAll other ++ [.blockEnd]))

def flattenAll : List Node → List Statement
  | [] => []
  | node :: nodes => node.flatten ++ flattenAll nodes
end

mutual
/-- The lines of a node whose outermost lines stand at the given level. -/
def print (level : Nat) : Node → List Text
  | .simple s => s.statement.written.map (Scope.indented level)
  | .block opener body =>
    opener.statement.written.map (Scope.indented level) ++ printAll (level + 1) body
      ++ [Scope.indented level "\x7d".toList]
  | .branch condition body other =>
    (Statement.ifThen condition).written.map (Scope.indented level) ++ printAll (level + 1) body
      ++ [Scope.indented level "\x7d else \x7b".toList] ++ printAll (level + 1) other
      ++ [Scope.indented level "\x7d".toList]

def printAll (level : Nat) : List Node → List Text
  | [] => []
  | node :: nodes => node.print level ++ printAll level nodes
end

end Node

namespace Item

def isDefinition : Item → Bool
  | .node _ => false
  | .definition _ _ => true

def flatten : Item → List Statement
  | .node tree => tree.flatten
  | .definition signature body => .define signature :: (Node.flattenAll body ++ [.blockEnd])

/-- The lines of a definition, with a blank one behind it. -/
def printFunction : Item → List Text
  | .node _ => []
  | .definition signature body =>
    Scope.indented 0 (signature.declaration ++ " \x7b".toList) :: Node.printAll 1 body
      ++ [Scope.indented 0 "\x7d".toList, []]

/-- The lines of the items that are no definitions. They stand at the given level up to the first definition and at level
zero behind it. -/
def printMain (level : Nat) : List Item → List Text
  | [] => []
  | .node tree :: items => tree.print level ++ printMain level items
  | .definition _ _ :: items => printMain 0 items

end Item

/-! ## Blocks -/

/-- Lines of which the first opens and the last closes a block. -/
theorem exists_eq_of_map_block {ns : List Numbered} {opener : Statement} {body : List Statement}
    (h : ns.map Numbered.statement = opener :: (body ++ [.blockEnd])) :
    ∃ first middle last, ns = first :: (middle ++ [last]) ∧ first.statement = opener ∧
      middle.map Numbered.statement = body ∧ last.statement.effect = .closes := by
  obtain ⟨first, _, rfl, hfirst, h⟩ := List.map_eq_cons_iff.mp h
  obtain ⟨middle, _, rfl, hmiddle, h⟩ := List.map_eq_append_iff.mp h
  obtain ⟨last, _, rfl, hlast, hnil⟩ := List.map_eq_cons_iff.mp h
  rw [List.map_eq_nil_iff.mp hnil]
  exact ⟨first, middle, last, rfl, hfirst, hmiddle, by rw [hlast]; rfl⟩

theorem exists_eq_of_map_branch {ns : List Numbered} {opener : Statement} {body other : List Statement}
    (h : ns.map Numbered.statement = opener :: (body ++ .elseBranch :: (other ++ [.blockEnd]))) :
    ∃ first middle change rest last, ns = first :: (middle ++ change :: (rest ++ [last])) ∧ first.statement = opener ∧
      middle.map Numbered.statement = body ∧ change.statement.effect = .alternates ∧
      rest.map Numbered.statement = other ∧ last.statement.effect = .closes := by
  obtain ⟨first, _, rfl, hfirst, h⟩ := List.map_eq_cons_iff.mp h
  obtain ⟨middle, _, rfl, hmiddle, h⟩ := List.map_eq_append_iff.mp h
  obtain ⟨change, rest, last, rfl, hchange, hrest, hlast⟩ := exists_eq_of_map_block h
  exact ⟨first, middle, change, rest, last, rfl, hfirst, hmiddle, by rw [hchange]; rfl, hrest, hlast⟩

namespace Cpp.Scope

variable {s : Scope} {n : Numbered}

theorem place_closes_openBlock (hs : s.FunctionOpen) (h : n.statement.effect = .closes) (kind : BlockKind) (line : Int)
    (ls : List Text) :
    ((s.openBlock kind line).write ls).place n = s.write (ls ++ [indented s.depth "\x7d".toList]) := by
  rw [place_of_closes h, write_openBlock, closeBlock_openBlock, depth_openBlock, depth_write, Nat.add_sub_cancel,
    write_write]
  exact leaveFunction_of_functionOpen (hs.write _)

theorem place_alternates_openBlock (h : n.statement.effect = .alternates) (kind : BlockKind) (line : Int)
    (ls : List Text) :
    ((s.openBlock kind line).write ls).place n =
      (s.write (ls ++ [indented s.depth "\x7d else \x7b".toList])).openBlock .elseBranch n.line := by
  rw [place_of_alternates h, write_openBlock, closeBlock_openBlock, depth_openBlock, depth_write, Nat.add_sub_cancel,
    write_write]

/-- The scope behind a definition: the function is written, and no block is open any more. -/
def afterFunction (s : Scope) (ls : List Text) : Scope :=
  ⟨.main, [], s.functionLines ++ ls, s.mainLines⟩

theorem place_closes_outside (h : n.statement.effect = .closes) (kind : BlockKind) (line : Int) (ls : List Text) :
    ((s.outside.openBlock kind line).write ls).place n =
      s.afterFunction (ls ++ [indented 0 "\x7d".toList, []]) := by
  rw [place_of_closes h, write_openBlock, closeBlock_openBlock, depth_openBlock, depth_write, Nat.add_sub_cancel,
    write_write, depth_outside, leaveFunction_of_nil (by simp) (by simp [outside])]
  simp [write, outside, endFunction, afterFunction]

end Cpp.Scope

/-! ## Bodies -/

namespace Node

open Scope

mutual
/-- In the main program, and inside a function, the statements of a node add its lines and change nothing else. -/
theorem placeAll_flatten : (node : Node) → (s : Scope) → s.FunctionOpen → (ns : List Numbered) →
    ns.map Numbered.statement = node.flatten → s.placeAll ns = s.write (node.print s.depth)
  | .simple t, s, _, ns, h => by
      simp only [flatten] at h
      obtain ⟨n, _, rfl, hn, hnil⟩ := List.map_eq_cons_iff.mp h
      rw [List.map_eq_nil_iff.mp hnil, placeAll_cons, placeAll_nil, place_of_stays (hn ▸ t.stays), hn,
        Statement.code_eq_written]
      simp only [print]
  | .block opener body, s, hs, ns, h => by
      simp only [flatten] at h
      obtain ⟨o, nb, e, rfl, ho, hb, he⟩ := exists_eq_of_map_block h
      have ho' : o.statement.effect = .opens opener.kind := ho ▸ opener.opens
      -- the body is written behind the open block, which the last line takes away again
      rw [placeAll_cons, place_of_opens ho', placeAll_append,
        placeAll_flattenAll body _ (functionOpen_openBlock _ _ _) nb hb, placeAll_cons, placeAll_nil,
        place_closes_openBlock (hs.write _) he, write_write]
      simp only [print, depth_openBlock, depth_write, ho, Statement.code_eq_written, List.append_assoc]
  | .branch condition body other, s, hs, ns, h => by
      simp only [flatten] at h
      obtain ⟨o, nb, a, no, e, rfl, ho, hb, ha, hother, he⟩ := exists_eq_of_map_branch h
      have ho' : o.statement.effect = .opens .ifThen := by rw [ho]; rfl
      rw [placeAll_cons, place_of_opens ho', placeAll_append,
        placeAll_flattenAll body _ (functionOpen_openBlock _ _ _) nb hb, placeAll_cons,
        place_alternates_openBlock ha, write_write, placeAll_append,
        placeAll_flattenAll other _ (functionOpen_openBlock _ _ _) no hother, placeAll_cons, placeAll_nil,
        place_closes_openBlock (hs.write _) he, write_write]
      simp only [print, depth_openBlock, depth_write, ho, Statement.code_eq_written, List.append_assoc]

theorem placeAll_flattenAll : (nodes : List Node) → (s : Scope) → s.FunctionOpen → (ns : List Numbered) →
    ns.map Numbered.statement = flattenAll nodes → s.placeAll ns = s.write (printAll s.depth nodes)
  | [], s, _, ns, h => by
      rw [List.map_eq_nil_iff.mp h]
      simp [printAll]
  | node :: nodes, s, hs, ns, h => by
      simp only [flattenAll] at h
      obtain ⟨as, bs, rfl, ha, hb⟩ := List.map_eq_append_iff.mp h
      rw [placeAll_append, placeAll_flatten node s hs as ha, placeAll_flattenAll nodes _ (hs.write _) bs hb, write_write,
        depth_write]
      simp only [printAll]
end

end Node

/-! ## Programs -/

namespace Item

open Scope

/-- A definition is written wherever it stands, and forgets what was open. -/
theorem placeAll_definition (s : Scope) (signature : Signature) (body : List Node) {ns : List Numbered}
    (h : ns.map Numbered.statement = (Item.definition signature body).flatten) :
    s.placeAll ns = s.afterFunction (Item.definition signature body).printFunction := by
  simp only [flatten] at h
  obtain ⟨d, nb, e, rfl, hd, hb, he⟩ := exists_eq_of_map_block h
  have hd' : d.statement.effect = .defines signature := by rw [hd]; rfl
  rw [placeAll_cons, place_of_defines hd', placeAll_append,
    Node.placeAll_flattenAll body _ (functionOpen_openBlock _ _ _) nb hb, ← write_openBlock, write_write, placeAll_cons,
    placeAll_nil, place_closes_outside he]
  simp [printFunction, indented]

theorem placeAll_program (items : List Item) {s : Scope} (hs : s.mode = .main) {ns : List Numbered}
    (h : ns.map Numbered.statement = items.flatMap flatten) :
    s.placeAll ns = ⟨.main, if items.any isDefinition then [] else s.blocks,
      s.functionLines ++ items.flatMap printFunction, s.mainLines ++ printMain s.depth items⟩ := by
  induction items generalizing s ns with
  | nil =>
      rw [List.map_eq_nil_iff.mp h]
      cases s
      simp_all [printMain]
  | cons item items ih =>
      rw [List.flatMap_cons] at h
      obtain ⟨as, bs, rfl, ha, hb⟩ := List.map_eq_append_iff.mp h
      rw [placeAll_append]
      cases item with
      | node tree =>
          have hopen : s.FunctionOpen := fun hf => by rw [hs] at hf; cases hf
          rw [Node.placeAll_flatten tree s hopen as ha, ih (by simpa using hs) hb, depth_write]
          simp [write, hs, isDefinition, printFunction, printMain]
      | definition signature body =>
          rw [placeAll_definition s signature body ha, ih rfl hb]
          simp [afterFunction, isDefinition, printMain, depth]

end Item

/-- On every well-nested program the generator writes what the tree says: the functions in order, each behind its header
and followed by a blank line, and the main program one level in up to the first definition and at level zero behind it.
It ends in the main program. -/
theorem run_eq_print (program : List Item) (ns : List Numbered)
    (h : ns.map Numbered.statement = program.flatMap Item.flatten) :
    (Generator.initial.run ns).scope.functionLines = program.flatMap Item.printFunction ∧
    (Generator.initial.run ns).scope.mainLines = Item.printMain 1 program ∧
    (Generator.initial.run ns).scope.mode = .main ∧
    (Generator.initial.run ns).scope.depth = if program.any Item.isDefinition then 0 else 1 := by
  have hrun := Item.placeAll_program program (s := Scope.initial) rfl h
  rw [Generator.scope_run]
  show (Scope.initial.placeAll ns).functionLines = _ ∧ (Scope.initial.placeAll ns).mainLines = _ ∧
    (Scope.initial.placeAll ns).mode = _ ∧ (Scope.initial.placeAll ns).depth = _
  rw [hrun]
  refine ⟨rfl, rfl, rfl, ?_⟩
  show (if _ then _ else _ : List Block).length = _
  split <;> rfl

/-- A definition between two parts of the main program: the second part is not indented any more. -/
theorem run_eq_print_between :
    (Generator.initial.run
      [⟨1, .ifThen "a".toList⟩, ⟨2, .breakLoop⟩, ⟨3, .elseBranch⟩, ⟨4, .blockEnd⟩, ⟨6, .define ⟨"f".toList, ["x".toList]⟩⟩,
       ⟨7, .loopTimes "3".toList⟩, ⟨8, .returnValue "x".toList⟩, ⟨9, .blockEnd⟩, ⟨10, .blockEnd⟩,
       ⟨12, .continueLoop⟩]).scope.mainLines =
        ["    if (a) \x7b", "        break;", "    \x7d else \x7b", "    \x7d", "continue;"].map String.toList := by
  have h := run_eq_print
    [.node (.branch "a".toList [.simple ⟨.breakLoop, rfl⟩] []),
     .definition ⟨"f".toList, ["x".toList]⟩
      [.block ⟨.loopTimes "3".toList, .loopTimes, rfl⟩ [.simple ⟨.returnValue "x".toList, rfl⟩]],
     .node (.simple ⟨.continueLoop, rfl⟩)]
    [⟨1, .ifThen "a".toList⟩, ⟨2, .breakLoop⟩, ⟨3, .elseBranch⟩, ⟨4, .blockEnd⟩, ⟨6, .define ⟨"f".toList, ["x".toList]⟩⟩,
     ⟨7, .loopTimes "3".toList⟩, ⟨8, .returnValue "x".toList⟩, ⟨9, .blockEnd⟩, ⟨10, .blockEnd⟩, ⟨12, .continueLoop⟩] rfl
  exact h.2.1.trans (by decide +kernel)

end FlowLang
