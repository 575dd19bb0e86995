import JobShell.Files.Open
import JobShell.Proofs.Files.Walk

/-!
# A file that text is appended to

What is read back from a file after text has been appended to it, also when
appending has made the file.
-/

namespace JobShell

namespace Node

theorem lookup_putEntry (name : String) (node : Node)
    (entries : List (String × Node)) (other : String) :
    (putEntry name node entries).lookup other =
      if other = name then some node else entries.lookup other := by
  induction entries with
  | nil => by_cases same : other = name <;> simp [putEntry, same]
  | cons entry entries induction =>
      obtain ⟨key, old⟩ := entry
      unfold putEntry
      by_cases here : key = name
      · subst key
        by_cases same : other = name
        · simp [same]
        · have different : (other == name) = false := by simpa using same
          simp [List.lookup_cons, same, different]
      · by_cases same : other = key
        · subst other
          simp [here]
        · have different : (other == key) = false := by simpa using same
          simp [here, List.lookup_cons, different, induction]

theorem get?_put_cons (root : Node) (name : String) (location : List String)
    (node : Node) (other : String) (rest : List String) :
    (root.put (name :: location) node).get? (other :: rest) =
      if other = name then
        (((root.child? name).getD (directory [])).put location node).get? rest
      else root.get? (other :: rest) := by
  have child : (root.put (name :: location) node).child? other =
      if other = name then
        some (((root.child? name).getD (directory [])).put location node)
      else root.child? other :=
    lookup_putEntry _ _ _ _
  rw [get?, child]
  split
  · rfl
  · rfl

@[simp] theorem get?_put_self (root : Node) (location : List String)
    (node : Node) :
    (root.put location node).get? location = some node := by
  induction location generalizing root with
  | nil => rfl
  | cons name location induction =>
      rw [get?_put_cons, if_pos rfl]
      exact induction _

/-- What is in the tree now is the new thing or in it, is a directory, or was
there. -/
theorem get?_put_cases {root node found : Node} {location other : List String}
    (there : (root.put location node).get? other = some found) :
    (∃ below, node.get? below = some found) ∨ found.isDirectory = true ∨
      root.get? other = some found := by
  induction location generalizing root other with
  | nil => exact .inl ⟨other, there⟩
  | cons name location induction =>
      cases other with
      | nil =>
          cases there
          exact .inr (.inl rfl)
      | cons first rest =>
          rw [get?_put_cons] at there
          split at there
          · next same =>
              subst first
              rcases induction there with inNew | directory | old
              · exact .inl inNew
              · exact .inr (.inl directory)
              · cases child : root.child? name with
                | some next =>
                    rw [child, Option.getD_some] at old
                    exact .inr (.inr (by rw [get?, child]; exact old))
                | none =>
                    rw [child, Option.getD_none] at old
                    cases rest with
                    | nil =>
                        cases old
                        exact .inr (.inl rfl)
                    | cons => cases old
          · exact .inr (.inr there)

theorem isDirectory_of_child? {root next : Node} {name : String}
    (child : root.child? name = some next) : root.isDirectory = true := by
  cases root with
  | directory entries => rfl
  | file => cases child
  | link => cases child
  | program => cases child
  | null => cases child

/-- Putting a thing into a directory changes no other thing, except for what is
in the directories above it. -/
theorem get?_put_of_get? {root parent old : Node} {above other : List String}
    {name : String} (node : Node) (directory : root.get? above = some parent)
    (isDirectory : parent.isDirectory = true)
    (absent : root.get? (above ++ [name]) = none)
    (there : root.get? other = some old) :
    ∃ new, (root.put (above ++ [name]) node).get? other = some new ∧
      (new = old ∨ (old.isDirectory = true ∧ new.isDirectory = true)) := by
  induction above generalizing root other with
  | nil =>
      cases directory
      cases other with
      | nil =>
          cases there
          exact ⟨_, rfl, .inr ⟨isDirectory, rfl⟩⟩
      | cons first rest =>
          have different : first ≠ name := by
            rintro rfl
            obtain ⟨next, child, _⟩ := Option.bind_eq_some_iff.mp there
            simp [get?, child] at absent
          refine ⟨old, ?_, .inl rfl⟩
          rw [List.nil_append, get?_put_cons, if_neg different]
          exact there
  | cons first above induction =>
      obtain ⟨next, child, inNext⟩ := Option.bind_eq_some_iff.mp directory
      cases other with
      | nil =>
          cases there
          exact ⟨_, rfl, .inr ⟨isDirectory_of_child? child, rfl⟩⟩
      | cons second rest =>
          rw [List.cons_append, get?_put_cons]
          split
          · next same =>
              subst second
              have absentBelow : next.get? (above ++ [name]) = none := by
                simpa [get?, child] using absent
              have thereBelow : next.get? rest = some old := by
                simpa [get?, child] using there
              rw [child, Option.getD_some]
              exact induction inNext absentBelow thereBelow
          · exact ⟨old, there, .inl rfl⟩

end Node

namespace World

/-- What holds of the file trees of machines: every regular file has contents,
and no link is too long to be followed. -/
structure Sound (world : World) : Prop where
  numbered : ∀ (location : List String) (executable : Bool) (number : Nat),
    world.files.root.get? location = some (.file executable number) →
      number < world.files.contents.size
  shortLinks : ∀ (location : List String) (target : String),
    world.files.root.get? location = some (.link target) →
      (Path.steps target.toList).length < pathLimit

section Walks

variable {root : Node} {fuel links : Nat} {here : Place} {steps : List PathStep}

/-- Who looks for a thing comes to the same end as who wants to write it. -/
theorem walks_target_of_file {found : Found}
    (walks : Walks root .file fuel links here steps found) :
    Walks root .target fuel links here steps found := by
  induction walks with
  | arrive arrived => exact .arrive arrived
  | stay directory idle _ induction => exact .stay directory idle induction
  | up directory _ induction => exact .up directory induction
  | vacant looks absent last => exact .vacant looks.forTarget absent last
  | entry looks there unfollowed =>
      cases (followed_target _).symm.trans unfollowed
  | link looks there followed somewhere _ induction =>
      exact .link looks.forTarget there (followed_target _) somewhere induction
  | enter looks there followed noLink _ induction =>
      exact .enter looks.forTarget there (followed_target _) noLink induction

theorem get?_of_walks_node {goal : WalkGoal} {location : List String}
    {node : Node}
    (walks : Walks root goal fuel links here steps (.node location node)) :
    root.get? location = some node := by
  generalize ending : Found.node location node = found at walks
  induction walks with
  | arrive arrived =>
      rcases arrive_cases arrived with ⟨_, orphan⟩ | ⟨other, _, there, same⟩
      · cases ending.trans orphan
      · cases ending.trans same
        exact there
  | stay _ _ _ induction => exact induction ending
  | up _ _ induction => exact induction ending
  | vacant => cases ending
  | entry _ there _ =>
      cases ending
      exact there
  | link _ _ _ _ _ induction => exact induction ending
  | enter _ _ _ _ _ induction => exact induction ending

/-- A new file would come into a directory. -/
theorem exists_parent_of_walks_vacant {goal : WalkGoal} {location : List String}
    (walks : Walks root goal fuel links here steps (.vacant location)) :
    ∃ above name parent,
      location = above ++ [name] ∧ root.get? above = some parent ∧
      parent.isDirectory = true ∧ root.get? location = none := by
  generalize vacancy : Found.vacant location = found at walks
  induction walks with
  | arrive arrived =>
      rcases arrive_cases arrived with ⟨_, orphan⟩ | ⟨other, _, _, same⟩
      · cases vacancy.trans orphan
      · cases vacancy.trans same
  | stay _ _ _ induction => exact induction vacancy
  | up _ _ induction => exact induction vacancy
  | @vacant _ _ here name _ looks absent _ =>
      cases vacancy
      have directory := looks.directory
      rw [isDirectoryAt, looks.present, Bool.false_or] at directory
      cases parent : root.get? here.location with
      | none => simp [parent] at directory
      | some node =>
          exact ⟨here.location, name, node, rfl, parent,
            by simpa [parent] using directory, absent⟩
  | entry => cases vacancy
  | link _ _ _ _ _ induction => exact induction vacancy
  | enter _ _ _ _ _ induction => exact induction vacancy

variable {above : List String} {name : String} {parent node : Node}
  (directory : root.get? above = some parent)
  (isDirectory : parent.isDirectory = true)
  (absent : root.get? (above ++ [name]) = none)

include directory isDirectory absent

theorem isDirectoryAt_put {place : Place}
    (directoryBefore : isDirectoryAt root place = true) :
    isDirectoryAt (root.put (above ++ [name]) node) place = true := by
  unfold isDirectoryAt at directoryBefore ⊢
  cases removed : place.isRemoved with
  | true => rfl
  | false =>
      rw [removed, Bool.false_or] at directoryBefore
      cases there : root.get? place.location with
      | none => simp [there] at directoryBefore
      | some old =>
          obtain ⟨new, found, kept⟩ :=
            Node.get?_put_of_get? node directory isDirectory absent there
          rw [there] at directoryBefore
          rw [found]
          rcases kept with rfl | ⟨_, both⟩
          · exact directoryBefore
          · exact both

theorem Looks.put {goal : WalkGoal} {other : String} {rest : List PathStep}
    (looks : Looks root goal here other rest) :
    Looks (root.put (above ++ [name]) node) goal here other rest :=
  { looks with
    directory :=
      isDirectoryAt_put directory isDirectory absent looks.directory }

/-- The walk that has found the place of a new file finds the file there, when
it has not run out of fuel. -/
theorem walks_put_of_vacant
    (shortLinks : ∀ (location : List String) (target : String),
      root.get? location = some (.link target) →
        (Path.steps target.toList).length < pathLimit)
    (noLink : ∀ target, node ≠ .link target)
    (enough : steps.length + links * pathLimit + 1 ≤ fuel)
    (walks : Walks root .file fuel links here steps
      (.vacant (above ++ [name]))) :
    Walks (root.put (above ++ [name]) node) .target fuel links here steps
      (.node (above ++ [name]) node) := by
  generalize vacancy : Found.vacant (above ++ [name]) = found at walks
  induction walks with
  | arrive arrived =>
      rcases arrive_cases arrived with ⟨_, orphan⟩ | ⟨other, _, _, same⟩
      · cases vacancy.trans orphan
      · cases vacancy.trans same
  | stay inDirectory idle _ induction =>
      rw [List.length_cons] at enough
      exact .stay
        (isDirectoryAt_put directory isDirectory absent inDirectory) idle
        (induction (by omega) vacancy)
  | up inDirectory _ induction =>
      rw [List.length_cons] at enough
      exact .up (isDirectoryAt_put directory isDirectory absent inDirectory)
        (induction (by omega) vacancy)
  | @vacant fuel links here other rest looks _ last =>
      have same : (here.below other).location = above ++ [name] :=
        (Found.vacant.inj vacancy).symm
      obtain rfl : rest = [] := by simpa [WalkGoal.isLast] using last
      rw [List.length_singleton] at enough
      obtain ⟨fuel, rfl⟩ : ∃ less, fuel = less + 1 := ⟨fuel - 1, by omega⟩
      have there :
          (root.put (above ++ [name]) node).get? (here.below other).location =
            some node :=
        same ▸ Node.get?_put_self root (above ++ [name]) node
      refine .enter (looks.forTarget.put directory isDirectory absent) there rfl
        noLink (.arrive ?_)
      have present : (here.below other).isRemoved = false := looks.present
      simp only [World.arrive, present, there]
      rw [same]
      rfl
  | entry => cases vacancy
  | @link fuel links here other target rest _ looks there _ somewhere _
      induction =>
      rw [List.length_cons] at enough
      obtain ⟨new, found, kept⟩ :=
        Node.get?_put_of_get? node directory isDirectory absent there
      have same : new = .link target := by
        rcases kept with same | ⟨impossible, _⟩
        · exact same
        · cases impossible
      have short := shortLinks _ _ there
      refine .link (looks.forTarget.put directory isDirectory absent)
        (same ▸ found) (followed_target _) somewhere (induction ?_ vacancy)
      rw [List.length_append]
      rw [Nat.add_mul] at enough
      omega
  | @enter fuel links here other rest old _ looks there _ noLinkBefore _
      induction =>
      rw [List.length_cons] at enough
      obtain ⟨new, found, kept⟩ :=
        Node.get?_put_of_get? node directory isDirectory absent there
      have noLinkNow : ∀ target, new ≠ .link target := by
        rintro target rfl
        rcases kept with same | ⟨_, impossible⟩
        · exact noLinkBefore target same.symm
        · cases impossible
      exact .enter (looks.forTarget.put directory isDirectory absent) found
        (followed_target _) noLinkNow (induction (by omega) vacancy)

end Walks

/-- The path leads to a regular file with this text, or to nothing, which counts
as a file without text. -/
inductive Holds (world : World) (path : String) : String → Prop where
  | file {location : List String} {executable : Bool} {number : Nat}
      {text : String}
      (there : world.lookup path =
        .ok (.node location (.file executable number)))
      (held : world.files.read number = text.toUTF8) : Holds world path text
  | missing (absent : world.lookup path = .error (.system .noEntry)) :
      Holds world path ""

theorem fromUTF8?_toUTF8 (text : String) :
    String.fromUTF8? text.toUTF8 = some text := by
  have valid : text.toUTF8.IsValidUTF8 := text.isValidUTF8
  rw [String.fromUTF8?, dif_pos valid]
  rfl

theorem Holds.readText {world : World} {path text : String}
    (holds : world.Holds path text) :
    world.readText path = .ok text ∨
      (world.readText path = .error (.system .noEntry) ∧ text = "") := by
  cases holds with
  | file there held =>
      left
      have bytes : world.readFile path = .ok text.toUTF8 := by
        simp only [readFile, there, held]
      unfold World.readText
      rw [bytes]
      simp only [bind, Except.bind, fromUTF8?_toUTF8]
      rfl
  | missing absent =>
      right
      simp only [World.readText, readFile, absent]
      exact ⟨rfl, trivial⟩

theorem lookup_of_resolve_file {world : World} {path : String} {found : Found}
    (resolved : world.resolve .file path = .ok found) :
    world.lookup path = present found := by
  obtain ⟨passable, walks⟩ := resolve_eq_ok_iff.mp resolved
  rw [World.lookup,
    resolve_eq_ok_iff.mpr ⟨passable, walks_target_of_file walks⟩]
  rfl

theorem get?_of_lookup {world : World} {path : String} {location : List String}
    {node : Node} (looked : world.lookup path = .ok (.node location node)) :
    world.files.root.get? location = some node :=
  get?_of_walks_node (resolve_eq_ok_iff.mp (resolve_of_lookup looked)).2

theorem Sound.writeFile {world : World} (sound : world.Sound) (number : Nat)
    (bytes : ByteArray) :
    (world.writeFile number bytes).Sound := by
  refine ⟨?_, sound.shortLinks⟩
  intro location executable other there
  have before := sound.numbered location executable other there
  simpa [World.writeFile, FileStore.write] using before

theorem read_writeFile {world : World} {number : Nat} {bytes : ByteArray}
    (inRange : number < world.files.contents.size) :
    (world.writeFile number bytes).files.read number = bytes := by
  simp [World.writeFile, FileStore.write, FileStore.read, inRange]

/-- The world with a new empty file. -/
def withNewFile (world : World) (location : List String) : World :=
  { world with files := (world.files.create location false ByteArray.empty).2 }

theorem Sound.withNewFile {world : World} (sound : world.Sound)
    (location : List String) :
    (world.withNewFile location).Sound := by
  constructor
  · intro other executable number there
    have size : (world.withNewFile location).files.contents.size =
        world.files.contents.size + 1 := by
      simp [World.withNewFile, FileStore.create]
    rw [size]
    rcases Node.get?_put_cases there with ⟨below, inNew⟩ | directory | old
    · cases below with
      | nil =>
          cases inNew
          omega
      | cons => cases inNew
    · cases directory
    · have := sound.numbered other executable number old
      omega
  · intro other target there
    rcases Node.get?_put_cases there with ⟨below, inNew⟩ | directory | old
    · cases below with
      | nil => cases inNew
      | cons => cases inNew
    · cases directory
    · exact sound.shortLinks other target old

theorem lookup_withNewFile {world : World} (sound : world.Sound) {path : String}
    {location : List String}
    (resolved : world.resolve .file path = .ok (.vacant location)) :
    (world.withNewFile location).lookup path =
      .ok (.node location (.file false world.files.contents.size)) := by
  obtain ⟨passable, walks⟩ := resolve_eq_ok_iff.mp resolved
  obtain ⟨above, name, parent, rfl, directory, isDirectory, absent⟩ :=
    exists_parent_of_walks_vacant walks
  have noLink : ∀ target,
      Node.file false world.files.contents.size ≠ .link target := nofun
  have again :=
    walks_put_of_vacant directory isDirectory absent sound.shortLinks noLink
    (Nat.le_refl _) walks
  have found : (world.withNewFile (above ++ [name])).resolve .target path =
      .ok (.node (above ++ [name]) (.file false world.files.contents.size)) :=
    resolve_eq_ok_iff.mpr ⟨passable, again⟩
  rw [World.lookup, found]
  rfl

/-- Appending goes to the file that is there, or to a new one; devices take it
in. -/
theorem appendText_cases {world next : World} {path more : String}
    (appended : world.appendText path more = .ok next) :
    (∃ location executable number,
      world.resolve .file path =
        .ok (.node location (.file executable number)) ∧
      next = world.writeFile number (world.files.read number ++ more.toUTF8)) ∨
    (∃ location, world.resolve .file path = .ok (.vacant location) ∧
      next = (world.withNewFile location).writeFile world.files.contents.size
        ((world.withNewFile location).files.read world.files.contents.size ++
          more.toUTF8)) ∨
    (∃ location node, world.resolve .file path = .ok (.node location node) ∧
      ∀ executable number, node ≠ .file executable number) := by
  unfold appendText openFile openForWriting at appended
  cases resolved : world.resolve .file path with
  | error error =>
      simp only [resolved] at appended
      cases appended
  | ok found =>
      cases found with
      | orphan place =>
          simp only [resolved] at appended
          cases appended
      | vacant location =>
          simp only [resolved] at appended
          cases appended
          exact .inr (.inl ⟨location, rfl, rfl⟩)
      | node location node =>
          cases node with
          | file executable number =>
              simp only [resolved] at appended
              cases appended
              exact .inl ⟨location, executable, number, rfl, rfl⟩
          | directory entries => exact .inr (.inr ⟨location, _, rfl, nofun⟩)
          | link target => exact .inr (.inr ⟨location, _, rfl, nofun⟩)
          | program program => exact .inr (.inr ⟨location, _, rfl, nofun⟩)
          | null => exact .inr (.inr ⟨location, _, rfl, nofun⟩)

/-- What is appended to a file stands behind what was in it. -/
theorem holds_appendText {world next : World} (sound : world.Sound)
    {path text more : String} (holds : world.Holds path text)
    (appended : world.appendText path more = .ok next) :
    next.Sound ∧ next.Holds path (text ++ more) := by
  have together : (text ++ more).toUTF8 = text.toUTF8 ++ more.toUTF8 :=
    String.toByteArray_append
  rcases appendText_cases appended with
    ⟨location, executable, number, resolved, rfl⟩ |
    ⟨location, resolved, rfl⟩ | ⟨location, node, resolved, noFile⟩
  · have looked := lookup_of_resolve_file resolved
    cases holds with
    | missing absent =>
        rw [looked] at absent
        cases absent
    | file there held =>
        rw [looked] at there
        cases there
        have inTree := get?_of_walks_node (resolve_eq_ok_iff.mp resolved).2
        have again :
            (world.writeFile number
              (world.files.read number ++ more.toUTF8)).lookup path =
            .ok (.node location (.file executable number)) := looked
        refine ⟨sound.writeFile _ _, .file again ?_⟩
        rw [read_writeFile (sound.numbered _ _ _ inTree), held, together]
  · have looked := lookup_of_resolve_file resolved
    cases holds with
    | file there held =>
        rw [looked] at there
        cases there
    | missing absent =>
        have made := sound.withNewFile location
        have there := lookup_withNewFile sound resolved
        have inTree := get?_of_lookup there
        refine ⟨made.writeFile _ _, .file there ?_⟩
        rw [read_writeFile (made.numbered _ _ _ inTree), together]
        have empty :
            (world.withNewFile location).files.read world.files.contents.size =
              "".toUTF8 := by
          simp [withNewFile, FileStore.create, FileStore.read]
        rw [empty]
  · have looked := lookup_of_resolve_file resolved
    cases holds with
    | missing absent =>
        rw [looked] at absent
        cases absent
    | file there held =>
        rw [looked] at there
        cases there
        exact absurd rfl (noFile _ _)

end World

end JobShell
