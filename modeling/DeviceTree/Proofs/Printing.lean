/-
What is printed of a tree.

The outline of a tree comes out of a loop with a stack of its own, which looks every node up in the
report that is printed in the other format, and keeps no record of the nodes it was at.  It comes to
an end, and both formats show the same nodes in the same order: that of the recursion over child
edges.  How a row reads is spelled out apart from the functions that lay it out.

* `Printing.round` -- one round of the loop;
* `Preorder.rounds` -- the loop prints what is listed, one node in each round;
* `Preorder.outlineBelow` -- and so does the recursion of `Arena.outline`;
* `Cli.painted`, `Arena.lineOf`, `Arena.linkLine` -- how texts and rows read;
* `Arena.stdout_outline` -- the rows, as they are printed;
* `outline_complete` -- what is printed of a tree that was built of a manifest.
-/
import DeviceTree.Cli.Program
import DeviceTree.Proofs.Declared
import DeviceTree.Proofs.Preorder

namespace DeviceTree

namespace Arena

variable {a : Arena} {root : Identifier} {depth : ℕ} {ids : List NodeId}
  {listing : List (ℕ × Snapshot)} {entry : ℕ × Snapshot} {x : NodeId} {n : Node}

/-! ### Rows -/

/-- The row of an element at `depth`, and after it one for each of its links, with the address of
its target. -/
def elementRows (a : Arena) (depth : ℕ) (n : Node) : List Row :=
  .element depth n.identifier n.kind n.address ::
    n.links.map fun r => .link (depth + 1) r.identifier (a.addressAt r.target)

/-- The rows of what is listed. -/
def listedRows (a : Arena) (listing : List (ℕ × Snapshot)) : List Row :=
  listing.flatMap fun entry => a.elementRows entry.1 entry.2.node

@[simp] theorem listedRows_cons (a : Arena) (entry : ℕ × Snapshot)
    (listing : List (ℕ × Snapshot)) :
    a.listedRows (entry :: listing) = a.elementRows entry.1 entry.2.node ++ a.listedRows listing :=
  rfl

@[simp] theorem listedRows_append (a : Arena) (listing listing' : List (ℕ × Snapshot)) :
    a.listedRows (listing ++ listing') = a.listedRows listing ++ a.listedRows listing' :=
  List.flatMap_append

/-- Every link leads to a node. -/
theorem Wired.live_of_link (w : a.Wired) (found : a.get? x = some n) {r : Reference}
    (mem : r ∈ n.links) : a.Live r.target := by
  obtain ⟨-, -, aim, live, -⟩ := w.forward found (List.mem_of_mem_filter mem)
  exact ⟨aim, live⟩

/-- Where every link leads to a node, no row has to do without an address. -/
theorem Wired.rowsOf_eq (w : a.Wired) (found : a.get? x = some n) (depth : ℕ) :
    a.rowsOf depth n = a.elementRows depth n := by
  refine congrArg _ (List.map_congr_left fun r mem => ?_)
  obtain ⟨aim, live⟩ := w.live_of_link found mem
  rw [addressOrPlace, addressAt_of_get? live, live, Option.elim_some]

/-! ### The recursion -/

/-- **The recursion prints what is listed**, if it may go deep enough. -/
theorem Preorder.outlineBelow (w : a.Wired) (h : a.Preorder depth ids listing) :
    ∀ levels, (∀ entry ∈ listing, entry.1 < depth + levels) →
      (ids.flatMap fun id => a.outlineBelow levels depth id) = a.listedRows listing := by
  induction h with
  | nil => exact fun _ _ => rfl
  | @cons depth id n rest below after found _ _ ih₁ ih₂ =>
    intro levels enough
    -- the node itself is not too deep, so there is a level for it
    have first := enough _ (List.mem_append_left _ List.mem_cons_self)
    obtain ⟨levels, rfl⟩ : ∃ k, levels = k + 1 := ⟨levels - 1, by omega⟩
    have lower := ih₁ levels fun entry mem => by
      have := enough entry (List.mem_append_left _ (List.mem_cons_of_mem _ mem))
      omega
    have later := ih₂ (levels + 1) fun entry mem => enough entry (List.mem_append_right _ mem)
    rw [List.flatMap_cons, later, Arena.outlineBelow, found, List.cons_append, listedRows_cons,
      listedRows_append, ← w.rowsOf_eq found, ← lower, List.append_assoc]

/-! ### The report -/

/-- The nodes that are listed are those that are reported, in order. -/
theorem Preorder.filterMap_places (h : a.Preorder depth ids listing) :
    (places listing).filterMap (fun id => (a.get? id).map (Snapshot.mk id)) =
      listing.map Prod.snd := by
  have same : ∀ entry ∈ listing,
      (a.get? entry.2.id).map (Snapshot.mk entry.2.id) = some entry.2 := by
    intro entry mem
    rw [h.found entry mem, Option.map_some]
  rw [places, List.filterMap_map, ← List.filterMap_eq_map]
  exact List.filterMap_congr same

/-- Who looks for a node that is listed finds it in the report. -/
theorem Preorder.find?_reported (h : a.Preorder depth ids listing) (mem : entry ∈ listing) :
    (listing.map Prod.snd).find? (fun s => s.id = entry.2.id) = some entry.2 := by
  have there : entry.2 ∈ listing.map Prod.snd := List.mem_map_of_mem mem
  cases first : (listing.map Prod.snd).find? fun s => s.id = entry.2.id with
  | none =>
    have missed := List.find?_eq_none.mp first entry.2 there
    exact absurd (decide_eq_true rfl) missed
  | some s =>
    have same : s.id = entry.2.id := by simpa using List.find?_some first
    obtain ⟨other, mem', rfl⟩ := List.mem_map.mp (List.mem_of_find?_eq_some first)
    have node := h.found other mem'
    rw [same, h.found entry mem] at node
    obtain ⟨depth, id, n⟩ := entry
    obtain ⟨depth', id', n'⟩ := other
    obtain rfl : id' = id := same
    obtain rfl : n = n' := Option.some.inj node
    rfl

end Arena

/-! ### The loop -/

/-- The printing of an outline under way. -/
structure Printing where
  /-- The nodes that wait to be printed, each with its depth, the next one first. -/
  stack : List (ℕ × NodeId)
  /-- The rows that were printed. -/
  rows : List Row

namespace Printing

/-- Only the root waits. -/
def start : Printing :=
  ⟨[(0, .root)], []⟩

/-- Prints the node on top of the stack, which is looked for in the report from its start.  Its
children are put on the stack from last to first.  A node that is not reported is passed over. -/
def round (a : Arena) (report : List Snapshot) (p : Printing) : Printing :=
  match p.stack with
  | [] => p
  | (depth, id) :: rest =>
    match report.find? fun s => s.id = id with
    | none => { p with stack := rest }
    | some s =>
      { stack := (s.node.childIds.map fun child => (depth + 1, child)) ++ rest
        rows := p.rows ++ a.rowsOf depth s.node }

theorem round_of_find? {a : Arena} {report : List Snapshot} {id : NodeId} {s : Snapshot}
    (found : report.find? (fun s => s.id = id) = some s) (depth : ℕ)
    (rest : List (ℕ × NodeId)) (rows : List Row) :
    round a report ⟨(depth, id) :: rest, rows⟩ =
      ⟨(s.node.childIds.map fun child => (depth + 1, child)) ++ rest,
        rows ++ a.rowsOf depth s.node⟩ := by
  simp only [round, found]

end Printing

namespace Arena

variable {a : Arena} {root : Identifier} {depth : ℕ} {ids : List NodeId}
  {listing : List (ℕ × Snapshot)}

/-- **The loop prints what is listed**, one node in each round.  The induction is that of the
listing: what lies below a node lies above the rest of the row on the stack. -/
theorem Preorder.rounds (w : a.Wired) {report : List Snapshot}
    (h : a.Preorder depth ids listing) :
    (∀ entry ∈ listing, report.find? (fun s => s.id = entry.2.id) = some entry.2) →
      ∀ (stack : List (ℕ × NodeId)) (rows : List Row),
        (Printing.round a report)^[listing.length]
            ⟨(ids.map fun id => (depth, id)) ++ stack, rows⟩ =
          ⟨stack, rows ++ a.listedRows listing⟩ := by
  induction h with
  | nil => simp [listedRows]
  | @cons depth id n rest below after found _ _ ih₁ ih₂ =>
    intro reported stack rows
    have here := reported _ (List.mem_append_left _ List.mem_cons_self)
    have lower := ih₁ (fun entry mem =>
      reported entry (List.mem_append_left _ (List.mem_cons_of_mem _ mem)))
      ((rest.map fun id => (depth, id)) ++ stack) (rows ++ a.rowsOf depth n)
    have later := ih₂ (fun entry mem => reported entry (List.mem_append_right _ mem)) stack
      (rows ++ a.rowsOf depth n ++ a.listedRows below)
    rw [show ((depth, (⟨id, n⟩ : Snapshot)) :: below ++ after).length =
        after.length + below.length + 1 by
          simp only [List.cons_append, List.length_cons, List.length_append]; omega,
      Function.iterate_succ_apply, List.map_cons, List.cons_append,
      Printing.round_of_find? here, Function.iterate_add_apply, lower, later, List.cons_append,
      listedRows_cons, listedRows_append, w.rowsOf_eq found, List.append_assoc, List.append_assoc]

/-- **What is printed of a sound arena**: its attached nodes, in pre-order. -/
theorem Sound.outlined (sound : a.Sound root) :
    ∃ listing, a.Preorder 0 [.root] listing ∧ (places listing).Nodup ∧
      (∀ x, x ∈ places listing ↔ a.Attached x) ∧
      (∀ entry ∈ listing,
        entry.2.node.address.toList.count Address.separator = entry.1) ∧
      a.attached = listing.map Prod.snd ∧ a.outline = a.listedRows listing ∧
      (Printing.round a a.attached)^[listing.length] .start = ⟨[], a.listedRows listing⟩ := by
  obtain ⟨top, found, -, -, address⟩ := sound.addressed.root
  obtain ⟨listing, h, nodup, subtree⟩ := sound.exists_preorder found 0
  have attached : a.attached = listing.map Prod.snd := by
    rw [Arena.attached, subtree, h.filterMap_places]
  refine ⟨listing, h, nodup, fun x => ?_, ?_, attached, ?_, ?_⟩
  · rw [← subtree, mem_subtree_iff]
    rfl
  · -- the address of the root is its name, which has no separator
    refine h.separators sound fun c mem n live => ?_
    obtain rfl := List.mem_singleton.mp mem
    obtain rfl := Option.some.inj (live.symm.trans found)
    rw [address, List.count_eq_zero]
    exact root.separator_not_mem
  · have deep := sound.ground.depth_lt h []
      (fun c mem => List.mem_singleton.mp mem ▸ wayDown_single found) rfl
    have rows := h.outlineBelow sound.wired a.slots.size fun entry mem => by
      have := deep entry mem
      omega
    rwa [List.flatMap_singleton] at rows
  · have run := h.rounds sound.wired (fun entry mem => h.find?_reported mem) [] []
    rw [← attached] at run
    simpa [Printing.start] using run

end Arena

/-! ### Lines -/

/-- How a text reads in this theme: with what the terminal writes around it in the style that it has
there, but as it is where there is no terminal, and in the plain theme. -/
def Cli.painted (theme : Cli.Theme) (terminal : Option Cli.Inks) (style : Cli.Palette → Cli.Style)
    (text : String) : String :=
  match theme, terminal with
  | .plain, _ | _, none => text
  | .light, some inks => (inks (style .light)).before ++ text ++ (inks (style .light)).after
  | .dark, some inks | .auto, some inks =>
    (inks (style .dark)).before ++ text ++ (inks (style .dark)).after

theorem Cli.Ui.paint_ofTheme (theme : Cli.Theme) (terminal : Option Cli.Inks)
    (style : Cli.Palette → Cli.Style) (text : String) :
    (ofTheme theme terminal).paint (style (ofTheme theme terminal).palette) text =
      Cli.painted theme terminal style text := by
  cases theme <;> cases terminal <;> rfl

/-- Two blanks for each level. -/
def blanks (depth : ℕ) : String :=
  String.ofList (List.replicate (2 * depth) ' ')

theorem indent_eq (depth : ℕ) : Cli.Ui.indent depth = blanks depth := by
  induction depth with
  | zero => rfl
  | succ depth ih =>
    have two : blanks (depth + 1) = "  " ++ blanks depth := by
      rw [blanks, Nat.mul_succ, Nat.add_comm, List.replicate_add, String.ofList_append]
      rfl
    rw [Cli.Ui.indent, List.replicate_succ, String.join_cons, ← Cli.Ui.indent, ih, two]

namespace Arena

variable {a : Arena} {theme : Cli.Theme} {terminal : Option Cli.Inks}

/-- How the line of an element reads: indented by its depth, first its identifier, and then its kind
in brackets and its address. -/
def lineOf (theme : Cli.Theme) (terminal : Option Cli.Inks) (depth : ℕ) (n : Node) : String :=
  blanks depth ++ Cli.painted theme terminal Cli.Palette.key n.identifier.text ++ " " ++
    Cli.painted theme terminal Cli.Palette.value ("[" ++ n.kind.name ++ "] " ++ n.address)

/-- How the line of a link reads: indented by its depth, after an arrow its identifier, and then the
address of the node to which it leads. -/
def linkLine (theme : Cli.Theme) (terminal : Option Cli.Inks) (depth : ℕ) (a : Arena)
    (r : Reference) : String :=
  blanks depth ++ Cli.painted theme terminal Cli.Palette.info "↪" ++ " " ++
    r.identifier.text ++ " => " ++ a.addressAt r.target

theorem rowLine_elementRows (a : Arena) (depth : ℕ) (n : Node) :
    (a.elementRows depth n).map (Cli.rowLine (.ofTheme theme terminal)) =
      lineOf theme terminal depth n :: n.links.map (linkLine theme terminal (depth + 1) a) := by
  rw [elementRows, List.map_cons, List.map_map]
  refine congrArg₂ List.cons ?_ (List.map_congr_left fun r _ => ?_)
  · rw [Cli.rowLine, Cli.Ui.element, Cli.Ui.paint_ofTheme, Cli.Ui.paint_ofTheme, indent_eq, lineOf]
  · rw [Function.comp_apply, Cli.rowLine, Cli.Ui.link, Cli.Ui.paint_ofTheme, indent_eq, linkLine]

/-- **What is printed of what is listed**, line by line. -/
theorem stdout_outline (listing : List (ℕ × Snapshot)) :
    Cli.unlines ((a.listedRows listing).map (Cli.rowLine (.ofTheme theme terminal))) =
      String.join (listing.flatMap fun (depth, s) =>
        (lineOf theme terminal depth s.node ::
          s.node.links.map (linkLine theme terminal (depth + 1) a)).map fun line =>
            line ++ "\n") := by
  rw [Cli.unlines, listedRows, List.map_flatMap, List.map_flatMap]
  exact congrArg String.join (List.flatMap_congr fun entry _ =>
    congrArg _ (rowLine_elementRows a entry.1 entry.2.node))

end Arena

/-- How a reference is reported. -/
def Reference.report (r : Reference) : Json :=
  .object [("identifier", .text r.identifier.text), ("source", .number r.source.index),
    ("target", .number r.target.index), ("kind", .text r.kind.name),
    ("direction", .text r.direction.name)]

/-- How a node is reported. -/
def Snapshot.report (s : Snapshot) : Json :=
  .object [("id", .number s.id.index), ("identifier", .text s.node.identifier.text),
    ("kind", .text s.node.kind.name), ("address", .text s.node.address),
    ("parent", s.node.parent.elim .null fun parent => .number parent.index),
    ("forward", .array (s.node.forward.map Reference.report)),
    ("inverse", .array (s.node.inverse.map Reference.report))]

open Arena

/-- **Both formats of an outline agree, and nothing is missing.**  Of a tree that was built of a
manifest the nodes can be listed in pre-order from the root over child edges, and in one way only;
this lists every node of the tree exactly once, each as it is and at the depth that is the number of
separators in its address.  The nodes that are reported as JSON are these, in this order.  The lines
that are printed are theirs, in this order as well: the one of the element itself, with its
identifier, its kind and its address, indented by two blanks for each level, and right after it
those of its links, in order and one step further in, with the addresses of the nodes to which they
lead.  On a terminal they are painted in the styles of the theme; without one, or in the plain
theme, nothing stands around their texts.  The loop that prints them is done after as many rounds as
there are nodes. -/
theorem outline_complete (m : Manifest) (options : Options) (s : Store)
    (built : m.build options = .ok s) (theme : Cli.Theme) (terminal : Option Cli.Inks) :
    let a := s.arena
    ∃ listing, a.Preorder 0 [.root] listing ∧
      (∀ other, a.Preorder 0 [.root] other → other = listing) ∧
      (places listing).Perm a.liveIds ∧
      (∀ entry ∈ listing, a.get? entry.2.id = some entry.2.node ∧
        entry.2.node.address.toList.count Address.separator = entry.1 ∧
        ∀ r ∈ entry.2.node.links, a.Live r.target) ∧
      (Printing.round a a.attached)^[listing.length] .start =
        ⟨[], listing.flatMap fun (depth, s) =>
          .element depth s.node.identifier s.node.kind s.node.address ::
            s.node.links.map fun r => .link (depth + 1) r.identifier (a.addressAt r.target)⟩ ∧
      Cli.outlineOutput (.ofTheme theme terminal) .text s =
        ⟨0, String.join (listing.flatMap fun (depth, s) =>
          (lineOf theme terminal depth s.node ::
            s.node.links.map (linkLine theme terminal (depth + 1) a)).map fun line =>
              line ++ "\n"), []⟩ ∧
      Cli.outlineOutput (.ofTheme theme terminal) .json s =
        ⟨0, (Json.object [("root", .text s.rootIdentifier.text),
          ("nodes", .array (listing.map fun entry => entry.2.report))]).pretty ++ "\n", []⟩ := by
  intro a
  rw [Manifest.build_eq] at built
  obtain ⟨b, carried, rfl⟩ := Request.outcome_ok.mp built
  have grown := Manifest.grown carried
  have sound : a.Sound _ := grown.tidy.upright.sound
  have planted : Planted (a.row Node.standing) := grown.planted
  obtain ⟨listing, h, nodup, mem, depths, attached, outline, run⟩ := sound.outlined
  refine ⟨listing, h, fun other h' => h'.unique h, ?_, fun entry here => ?_, run, ?_, ?_⟩
  · refine (List.perm_ext_iff_of_nodup nodup a.nodup_liveIds).mpr fun x => ?_
    rw [mem, mem_liveIds_iff]
    constructor
    · intro path
      obtain ⟨entry, here, rfl⟩ := List.mem_map.mp ((mem x).mpr path)
      exact ⟨_, h.found entry here⟩
    · rintro ⟨n, found⟩
      exact attached_of_planted sound planted found
  · have found := h.found entry here
    exact ⟨found, depths entry here, fun r link => sound.wired.live_of_link found link⟩
  · rw [← stdout_outline, ← outline]
    rfl
  · have nodes : a.attached.map Snapshot.toJson = listing.map fun entry => entry.2.report := by
      rw [attached, List.map_map]
      rfl
    rw [← nodes, Cli.outlineOutput, Cli.unlines, List.map_singleton, String.join_cons,
      String.join_nil, String.append_empty]

/-- A row of an element and one of a link on a terminal. -/
example :
    Cli.rowLine (.ofTheme .dark (some .ansi)) (.element 1 ⟨"fan", rfl⟩ .data "hub/fan") =
        "  \x1b[1;94mfan\x1b[0m \x1b[37m[data] hub/fan\x1b[0m" ∧
      Cli.rowLine (.ofTheme .light (some .ansi)) (.link 1 ⟨"via", rfl⟩ "hub/fan") =
        "  \x1b[35m↪\x1b[0m via => hub/fan" := by
  constructor <;> cbv

/-- The lines of the bay, with its fan, its bus and two links. -/
def Manifest.bayLines : List String :=
  ["hub [structure] hub\n",
    "  ↪ via => hub/bay/fan\n",
    "  bay [structure] hub/bay\n",
    "    fan [data] hub/bay/fan\n",
    "      getdata [service] hub/bay/fan/getdata\n",
    "      setdata [service] hub/bay/fan/setdata\n",
    "      datachanged [event] hub/bay/fan/datachanged\n",
    "  bus [structure] hub/bus\n",
    "    ↪ fan => hub/bay/fan\n"]

/-- The report of a tree of which nothing was declared. -/
def Manifest.bareLines : List String :=
  ["\x7b\n",
    "  \"root\": \"device\",\n",
    "  \"nodes\": [\n",
    "    \x7b\n",
    "      \"id\": 0,\n",
    "      \"identifier\": \"device\",\n",
    "      \"kind\": \"structure\",\n",
    "      \"address\": \"device\",\n",
    "      \"parent\": null,\n",
    "      \"forward\": [],\n",
    "      \"inverse\": []\n",
    "    \x7d\n",
    "  ]\n",
    "\x7d\n"]

set_option maxRecDepth 1024 in
/-- The bay is printed in seven rounds, and a bare tree in colours on a terminal. -/
theorem outline_complete_bay :
    let ui := Cli.Ui.ofTheme .auto none
    (∃ t listing, Manifest.bay.build .standard = .ok t ∧
      t.arena.Preorder 0 [.root] listing ∧ listing.length = 7 ∧
      ((Printing.round t.arena t.arena.attached)^[7] .start).stack = [] ∧
      String.join Manifest.bayLines = String.join (listing.flatMap fun (depth, s) =>
        (lineOf .auto none depth s.node ::
          s.node.links.map (linkLine .auto none (depth + 1) t.arena)).map fun line =>
            line ++ "\n") ∧
      Cli.outlineOutput ui .text t = ⟨0, String.join Manifest.bayLines, []⟩) ∧
    ∃ t, Manifest.build ⟨none, [], []⟩ .standard = .ok t ∧
      Cli.outlineOutput ui .json t = ⟨0, String.join Manifest.bareLines, []⟩ ∧
      Cli.outlineOutput (.ofTheme .dark (some .ansi)) .text t =
        ⟨0, "\x1b[1;94mdevice\x1b[0m \x1b[37m[structure] device\x1b[0m\n", []⟩ := by
  intro ui
  constructor
  · obtain ⟨t, built⟩ : ∃ t, Manifest.bay.build .standard = .ok t :=
      Request.exists_ok_of_isSome (of_decide_eq_true (by cbv))
    obtain ⟨listing, h, -, perm, -, run, text, -⟩ :=
      outline_complete Manifest.bay .standard t built .auto none
    have size : listing.length = 7 := by
      have ids := (Manifest.realized_of_build built).ids
      have length := perm.length_eq
      rw [ids, places, List.length_map, List.length_map, List.length_range] at length
      exact length
    rw [size] at run
    have printed : (Manifest.bay.build .standard).toOption.map
        (Cli.outlineOutput (.ofTheme .auto none) .text) =
      some ⟨0, String.join Manifest.bayLines, []⟩ := by cbv
    rw [built] at printed
    have lines := Option.some.inj printed
    exact ⟨t, listing, built, h, size, congrArg Printing.stack run,
      congrArg Cli.Output.stdout (lines.symm.trans text), lines⟩
  · obtain ⟨t, built⟩ : ∃ t, Manifest.build ⟨none, [], []⟩ .standard = .ok t :=
      Request.exists_ok_of_isSome (of_decide_eq_true (by cbv))
    have printed : (Manifest.build ⟨none, [], []⟩ .standard).toOption.map
        (Cli.outlineOutput (.ofTheme .auto none) .json) =
      some ⟨0, String.join Manifest.bareLines, []⟩ := by cbv
    have painted : (Manifest.build ⟨none, [], []⟩ .standard).toOption.map
        (Cli.outlineOutput (.ofTheme .dark (some .ansi)) .text) =
      some ⟨0, "\x1b[1;94mdevice\x1b[0m \x1b[37m[structure] device\x1b[0m\n", []⟩ := by cbv
    rw [built] at printed painted
    exact ⟨t, built, Option.some.inj printed, Option.some.inj painted⟩

end DeviceTree
