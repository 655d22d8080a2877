import SourceCatalog.Proofs.Toml.Mentions

/-!
# Items of a TOML document

A statement that is followed declares what it mentions at the root, and nothing more there. Main
statement: the items of a document are the standing mentions of its keys, in order.
-/

namespace SourceCatalog.Toml

/-- What a declaration says of a key of the root. -/
def Declaration.mention? (declaration : Declaration) : Option Mention :=
  match declaration.names with
  | [name] => some ⟨name, declaration.role.seen, declaration.key, declaration.left,
      declaration.role = .opened⟩
  | _ => none

theorem itemOf?_eq (document : Text) (declaration : Declaration) :
    itemOf? document declaration = declaration.mention?.map (Mention.item document) := by
  obtain ⟨names, role, key, left⟩ := declaration
  cases names with
  | nil => rfl
  | cons first others => cases others <;> rfl

theorem mention?_eq_none {declaration : Declaration} (inside : 2 ≤ declaration.names.length) :
    declaration.mention? = none := by
  unfold Declaration.mention?
  split
  · next name isName =>
    rw [isName] at inside
    simp at inside
  · rfl

theorem mention?_eq_some {declaration : Declaration} {mention : Mention}
    (found : declaration.mention? = some mention) :
    declaration.names = [mention.name] ∧ mention.own = decide (declaration.role = .opened) := by
  unfold Declaration.mention? at found
  split at found
  · next name isName =>
    cases found
    exact ⟨isName, rfl⟩
  · cases found

section Names

variable {path : KeyPath} {first : Key} {others : List Key}

theorem KeyPath.names_of_root (atRoot : path.parents = []) : path.names = [path.last.name] := by
  rw [names, atRoot]
  rfl

theorem KeyPath.two_le_length_names (inside : path.parents = first :: others) :
    2 ≤ path.names.length := by
  rw [names, inside]
  simp

end Names

namespace Declared

def placed (declared : Declared) : List Mention :=
  declared.declarations.filterMap Declaration.mention?

variable {declared led after : Declared} {made : Role} {outer : List Text} {first : Key}
  {keys : List Key} {path : KeyPath} {value : Value} {left : Nat} {name : Text}

theorem placed_declare (declaration : Declaration) :
    (declared.declare declaration).placed = declared.placed ++ declaration.mention?.toList := by
  rw [placed, declare, List.filterMap_append, List.filterMap_cons]
  cases declaration.mention? <;> rfl

theorem placed_declare_inside {declaration : Declaration}
    (inside : 2 ≤ declaration.names.length) :
    (declared.declare declaration).placed = declared.placed := by
  rw [placed_declare, mention?_eq_none inside]
  exact List.append_nil _

/-- A name of the root is free as long as nothing is said of it. -/
theorem role?_eq_none_iff :
    declared.role? [name] = none ↔ name ∉ declared.placed.map Mention.name := by
  rw [role?, Option.map_eq_none_iff, List.find?_eq_none]
  constructor
  · intro nowhere member
    obtain ⟨mention, isPlaced, rfl⟩ := List.mem_map.1 member
    obtain ⟨declaration, isDeclared, found⟩ := List.mem_filterMap.1 isPlaced
    apply nowhere declaration isDeclared
    rw [(mention?_eq_some found).1]
    exact beq_self_eq_true _
  · intro nowhere declaration isDeclared same
    have isName : declaration.names = [name] := eq_of_beq same
    apply nowhere
    apply List.mem_map.2
    refine ⟨⟨name, declaration.role.seen, declaration.key, declaration.left,
      declaration.role = .opened⟩, List.mem_filterMap.2 ⟨declaration, isDeclared, ?_⟩, rfl⟩
    rw [Declaration.mention?, isName]

theorem not_owned_of_role? (distinct : (declared.placed.map Mention.name).Nodup) {role : Role}
    (found : declared.role? [name] = some role) (notOpened : role ≠ .opened) :
    ¬ Owned name declared.placed := by
  rintro ⟨mention, isPlaced, rfl, isOwn⟩
  obtain ⟨declaration, isFound, rfl⟩ := Option.map_eq_some_iff.1 found
  have isName : declaration.names = [mention.name] := by
    have same := List.find?_some isFound
    exact eq_of_beq same
  have shown : declaration.mention? = some ⟨mention.name, declaration.role.seen, declaration.key,
      declaration.left, declaration.role = .opened⟩ := by
    rw [Declaration.mention?, isName]
  have isPlacedToo := List.mem_filterMap.2 ⟨declaration, List.mem_of_find?_eq_some isFound, shown⟩
  have same := List.inj_on_of_nodup_map distinct isPlaced isPlacedToo rfl
  rw [same] at isOwn
  exact notOpened (of_decide_eq_true isOwn)

/-- A table on the way is there already, or it is made. -/
theorem lead_cons_eq_some (leads : declared.lead made outer (first :: keys) = some led) :
    ∃ next, next.lead made (outer ++ [first.name]) keys = some led ∧
      (next = declared ∧ declared.role? (outer ++ [first.name]) ≠ none ∨
        next = declared.declare ⟨outer ++ [first.name], made, first.left, first.left⟩ ∧
          declared.role? (outer ++ [first.name]) = none) := by
  rw [lead] at leads
  split at leads
  · next undeclared => exact ⟨_, leads, .inr ⟨rfl, undeclared⟩⟩
  · cases leads
  · next opened =>
    split at leads
    · cases leads
    · exact ⟨declared, leads, .inl ⟨rfl, by rw [opened]; exact Option.some_ne_none _⟩⟩
  · next role _ _ isRole =>
    exact ⟨declared, leads, .inl ⟨rfl, by rw [isRole]; exact Option.some_ne_none _⟩⟩

theorem current_of_lead (leads : declared.lead made outer keys = some led) :
    led.current = declared.current := by
  induction keys generalizing outer declared with
  | nil =>
    cases leads
    rfl
  | cons first others inductionHypothesis =>
    obtain ⟨next, leadsOn, ⟨rfl, _⟩ | ⟨rfl, _⟩⟩ := lead_cons_eq_some leads
    · exact inductionHypothesis leadsOn
    · exact (inductionHypothesis leadsOn).trans rfl

/-- Leading through tables inside of another one says nothing of the keys of the root. -/
theorem placed_of_lead_inside (inside : outer ≠ [])
    (leads : declared.lead made outer keys = some led) : led.placed = declared.placed := by
  induction keys generalizing outer declared with
  | nil =>
    cases leads
    rfl
  | cons first others inductionHypothesis =>
    have stillInside : outer ++ [first.name] ≠ [] := by simp
    obtain ⟨next, leadsOn, ⟨rfl, _⟩ | ⟨rfl, _⟩⟩ := lead_cons_eq_some leads
    · exact inductionHypothesis stillInside leadsOn
    · rw [inductionHypothesis stillInside leadsOn, placed_declare_inside]
      have := List.length_pos_iff.2 inside
      simp
      omega

/-- A role that tables have if they are led through. -/
def Leading (made : Role) : Prop :=
  made.seen = .other .map ∧ made ≠ .opened

/-- Leading from the root mentions the first table on the way. -/
theorem placed_of_lead_root (leading : Leading made)
    (leads : declared.lead made [] (first :: keys) = some led) :
    led.placed = place declared.placed first.mention := by
  have shown : (⟨[first.name], made, first.left, first.left⟩ : Declaration).mention? =
      some first.mention := by
    simp [Declaration.mention?, Key.mention, leading.1, leading.2]
  obtain ⟨next, leadsOn, ⟨rfl, isDeclared⟩ | ⟨rfl, undeclared⟩⟩ := lead_cons_eq_some leads
  · have member := not_not.1 (mt role?_eq_none_iff.2 isDeclared)
    rw [placed_of_lead_inside (by simp) leadsOn, place_of_mem rfl member]
  · have fresh := role?_eq_none_iff.1 undeclared
    rw [placed_of_lead_inside (by simp) leadsOn, placed_declare, List.nil_append, shown,
      place_of_notMem rfl fresh]
    rfl

/-! ## Following a statement -/

/-- An assignment leads to its table and declares a new name there. -/
theorem assign_eq_some (assigns : declared.assign path value left = some after) :
    ∃ led, declared.lead .dotted declared.current path.parents = some led ∧
      led.role? (declared.current ++ path.parents.map Key.name ++ [path.last.name]) = none ∧
      after = led.declare
        ⟨declared.current ++ path.parents.map Key.name ++ [path.last.name], .value value,
          path.last.left, left⟩ := by
  obtain ⟨led, leads, ends⟩ := Option.bind_eq_some_iff.1 assigns
  dsimp only at ends
  split at ends
  · cases ends
  · split at ends
    · cases ends
    · next fresh =>
      refine ⟨led, leads, ?_, (Option.some.inj ends).symm⟩
      exact Option.not_isSome_iff_eq_none.1 fresh

/-- A header opens a new table, or one that headers have led through. -/
theorem openTable_eq_some (opens : declared.openTable path left = some after) :
    ∃ led, declared.lead .implied [] path.parents = some led ∧ after.current = path.names ∧
      (led.role? path.names = none ∧
          after.declarations =
            (led.declare ⟨path.names, .opened, path.last.left, left⟩).declarations ∨
        led.role? path.names = some .implied ∧
          after.declarations = led.declarations.filter (·.names != path.names) ++
            [⟨path.names, .opened, path.last.left, left⟩]) := by
  obtain ⟨led, leads, ends⟩ := Option.bind_eq_some_iff.1 opens
  refine ⟨led, leads, ?_⟩
  dsimp only at ends
  split at ends
  · next undeclared =>
    cases ends
    exact ⟨rfl, .inl ⟨undeclared, rfl⟩⟩
  · next implied =>
    cases ends
    exact ⟨rfl, .inr ⟨implied, rfl⟩⟩
  · cases ends

/-- A header in double brackets opens a new list, or the next element of one. -/
theorem openElement_eq_some (opens : declared.openElement path left = some after) :
    ∃ led, declared.lead .implied [] path.parents = some led ∧ after.current = path.names ∧
      (led.role? path.names = none ∧
          after.declarations =
            (led.declare ⟨path.names, .elements, path.last.left, left⟩).declarations ∨
        led.role? path.names = some .elements ∧
          after.declarations = led.declarations.filter fun declaration =>
            declaration.names == path.names || !path.names.isPrefixOf declaration.names) := by
  obtain ⟨led, leads, ends⟩ := Option.bind_eq_some_iff.1 opens
  refine ⟨led, leads, ?_⟩
  dsimp only at ends
  split at ends
  · next undeclared =>
    cases ends
    exact ⟨rfl, .inl ⟨undeclared, rfl⟩⟩
  · next elements =>
    cases ends
    exact ⟨rfl, .inr ⟨elements, rfl⟩⟩
  · cases ends

/-- Declarations inside of tables may be dropped without notice at the root. -/
theorem placed_filter {keep : Declaration → Bool} {declarations : List Declaration}
    (kept : ∀ declaration, declaration.mention? ≠ none → keep declaration = true) :
    (declarations.filter keep).filterMap Declaration.mention? =
      declarations.filterMap Declaration.mention? := by
  rw [List.filterMap_filter]
  congr 1
  funext declaration
  by_cases nothing : declaration.mention? = none
  · rw [nothing, ite_self]
  · rw [if_pos (kept declaration nothing)]

theorem placed_filter_name {declarations : List Declaration} :
    (declarations.filter (·.names != [name])).filterMap Declaration.mention? =
      (declarations.filterMap Declaration.mention?).filter (·.name ≠ name) := by
  rw [List.filterMap_filter, List.filter_filterMap]
  congr 1
  funext declaration
  cases shown : declaration.mention? with
  | none => rw [ite_self, Option.filter_none]
  | some mention =>
    rw [(mention?_eq_some shown).1]
    by_cases same : mention.name = name
    · simp [same, Option.filter_some]
    · simp [same, Option.filter_some]

theorem placed_of_assign (assigns : declared.assign path value left = some after) :
    after.placed =
        (if declared.current = [] then place declared.placed (path.mention value left false)
          else declared.placed) ∧
      after.current = declared.current := by
  obtain ⟨led, leads, fresh, rfl⟩ := assign_eq_some assigns
  refine ⟨?_, (current_of_lead leads).trans rfl⟩
  by_cases atRoot : declared.current = []
  · rw [if_pos atRoot]
    rw [atRoot] at leads fresh ⊢
    rw [KeyPath.mention]
    cases parents : path.parents with
    | nil =>
      rw [parents] at leads fresh
      cases leads
      rw [placed_declare, place_of_notMem rfl (role?_eq_none_iff.1 fresh)]
      rfl
    | cons first others =>
      rw [parents] at leads
      rw [placed_declare_inside (by simp), placed_of_lead_root ⟨rfl, by decide⟩ leads]
  · have := List.length_pos_iff.2 atRoot
    rw [if_neg atRoot, placed_declare_inside (by simp; omega), placed_of_lead_inside atRoot leads]

theorem placed_of_openTable (distinct : (declared.placed.map Mention.name).Nodup)
    (opens : declared.openTable path left = some after) :
    let mention := path.mention (.other .map) left true
    after.placed = place declared.placed mention ∧
      (mention.own = true → ¬ Owned mention.name declared.placed) := by
  obtain ⟨led, leads, _, ends⟩ := openTable_eq_some opens
  rw [KeyPath.mention]
  cases parents : path.parents with
  | nil =>
    rw [parents] at leads
    cases leads
    rw [KeyPath.names_of_root parents] at ends
    rcases ends with ⟨fresh, ends⟩ | ⟨implied, ends⟩
    · have unnamed := role?_eq_none_iff.1 fresh
      have untouched : declared.placed.filter (·.name ≠ path.last.name) = declared.placed :=
        List.filter_eq_self.2 fun mention member =>
          decide_eq_true fun same => unnamed (same ▸ List.mem_map_of_mem member)
      refine ⟨?_, fun _ owned => unnamed owned.mem_names⟩
      rw [place_of_own rfl, untouched]
      exact (congrArg (List.filterMap Declaration.mention?) ends).trans (placed_declare _)
    · refine ⟨?_, fun _ => not_owned_of_role? distinct implied (by decide)⟩
      rw [placed, ends, List.filterMap_append, placed_filter_name]
      rfl
  | cons first others =>
    rw [parents] at leads
    have inside := KeyPath.two_le_length_names parents
    refine ⟨?_, fun own => by cases own⟩
    rw [← placed_of_lead_root ⟨rfl, by decide⟩ leads]
    rcases ends with ⟨_, ends⟩ | ⟨_, ends⟩
    · exact (congrArg (List.filterMap Declaration.mention?) ends).trans
        (placed_declare_inside inside)
    · have kept : ∀ declaration : Declaration, declaration.mention? ≠ none →
          (declaration.names != path.names) = true := by
        intro declaration isShown
        apply bne_iff_ne.2
        intro same
        exact isShown (mention?_eq_none (same ▸ inside))
      rw [placed, ends, List.filterMap_append, placed_filter kept, List.filterMap_cons,
        mention?_eq_none inside]
      exact List.append_nil _

theorem placed_of_openElement (opens : declared.openElement path left = some after) :
    after.placed = place declared.placed (path.mention (.other .sequence) left false) := by
  obtain ⟨led, leads, _, ends⟩ := openElement_eq_some opens
  have outside : ∀ declaration : Declaration, declaration.mention? ≠ none →
      (declaration.names == path.names || !path.names.isPrefixOf declaration.names) = true := by
    intro declaration isShown
    obtain ⟨mention, shown⟩ := Option.ne_none_iff_exists'.1 isShown
    rw [Bool.or_eq_true, Bool.not_eq_true', (mention?_eq_some shown).1]
    -- The names of a header cannot lead further into a key of the root than to the key itself.
    by_cases front : path.names <+: [mention.name]
    · have atMost := front.length_le
      have atLeast : path.names.length = path.parents.length + 1 := by simp [KeyPath.names]
      have same : path.names = [mention.name] :=
        front.eq_of_length (by rw [List.length_singleton] at atMost ⊢; omega)
      exact .inl (beq_iff_eq.2 same.symm)
    · exact .inr (Bool.eq_false_iff.2 (mt List.isPrefixOf_iff_prefix.1 front))
  rw [KeyPath.mention]
  cases parents : path.parents with
  | nil =>
    rw [parents] at leads
    cases leads
    rw [KeyPath.names_of_root parents] at ends outside
    rcases ends with ⟨fresh, ends⟩ | ⟨elements, ends⟩
    · rw [place_of_notMem rfl (role?_eq_none_iff.1 fresh)]
      exact (congrArg (List.filterMap Declaration.mention?) ends).trans (placed_declare _)
    · have named : path.last.name ∈ declared.placed.map Mention.name := by
        by_contra unnamed
        rw [role?_eq_none_iff.2 unnamed] at elements
        cases elements
      rw [place_of_mem rfl named, placed, ends, placed_filter outside]
      rfl
  | cons first others =>
    rw [parents] at leads
    have inside := KeyPath.two_le_length_names parents
    rw [← placed_of_lead_root ⟨rfl, by decide⟩ leads]
    rcases ends with ⟨_, ends⟩ | ⟨_, ends⟩
    · exact (congrArg (List.filterMap Declaration.mention?) ends).trans
        (placed_declare_inside inside)
    · rw [placed, ends, placed_filter outside]
      rfl

/-- A statement that is followed declares what it mentions at the root. -/
theorem placed_of_follow (distinct : (declared.placed.map Mention.name).Nodup)
    {statement : Statement} (follows : declared.follow statement = some after) :
    after.placed =
        (if statement.isHeader = true ∨ declared.current = [] then
          place declared.placed statement.mention
        else declared.placed) ∧
      (statement.mention.own = true → ¬ Owned statement.mention.name declared.placed) ∧
      (after.current = [] ↔ statement.isHeader = false ∧ declared.current = []) := by
  have notOwn : ∀ (path : KeyPath) (value : Value) (left : Nat),
      (path.mention value left false).own = false := by
    intro path value left
    rw [KeyPath.mention]
    cases path.parents <;> rfl
  have namesNonempty : ∀ path : KeyPath, path.names ≠ [] := by simp [KeyPath.names]
  cases statement with
  | assign path value left =>
    obtain ⟨placed, current⟩ := placed_of_assign follows
    refine ⟨?_, fun own => ?_, ?_⟩
    · rw [placed]
      simp [Statement.isHeader, Statement.mention]
    · cases (notOwn path value left).symm.trans own
    · rw [current]
      simp [Statement.isHeader]
  | openTable path left =>
    obtain ⟨placed, first⟩ := placed_of_openTable distinct follows
    obtain ⟨_, _, current, _⟩ := openTable_eq_some follows
    refine ⟨placed, first, ?_⟩
    rw [current]
    simp [Statement.isHeader, namesNonempty]
  | openElement path left =>
    obtain ⟨_, _, current, _⟩ := openElement_eq_some follows
    refine ⟨placed_of_openElement follows, fun own => ?_, ?_⟩
    · cases (notOwn path _ left).symm.trans own
    · rw [current]
      simp [Statement.isHeader, namesNonempty]

/-- What has been declared at the root once some statements are followed. -/
structure Tells (declared : Declared) (statements : List Statement) : Prop where
  placed : declared.placed = standing (mentions statements)
  root : declared.current = [] ↔ ∀ statement ∈ statements, statement.isHeader = false

theorem tells_start : Tells start [] where
  placed := rfl
  root := by simp [start]

/-- One more statement adds one more mention. -/
theorem Tells.follow {statements : List Statement} (tells : Tells declared statements)
    {statement : Statement} (follows : declared.follow statement = some after) :
    Tells after (statements ++ [statement]) := by
  have distinct : (declared.placed.map Mention.name).Nodup := by
    rw [tells.placed]
    exact nodup_names_standing
  obtain ⟨placed, first, current⟩ := placed_of_follow distinct follows
  -- An own header among the mentions would stand, and the statement could not be followed.
  rw [tells.placed] at placed first
  constructor
  · rw [placed, mentions_append]
    simp only [tells.root]
    split
    · exact (standing_append fun own owned => first own owned.standing).symm
    · rfl
  · rw [current, tells.root, List.forall_mem_append, List.forall_mem_singleton, and_comm]

theorem Tells.foldlM {statements others : List Statement} (tells : Tells declared statements)
    (follows : others.foldlM Declared.follow declared = some after) :
    Tells after (statements ++ others) := by
  induction others generalizing declared statements with
  | nil =>
    cases follows
    rwa [List.append_nil]
  | cons statement rest inductionHypothesis =>
    rw [List.foldlM_cons] at follows
    obtain ⟨next, followsFirst, followsRest⟩ := Option.bind_eq_some_iff.1 follows
    have later := inductionHypothesis (tells.follow followsFirst) followsRest
    rwa [List.append_assoc] at later

end Declared

/-- The items of a document are the standing mentions of its keys. -/
theorem items?_eq_some {document : Text} {items : List Item} (found : items? document = some items) :
    ∃ read, statements document = some read ∧
      items = (standing (mentions read)).map (Mention.item document) := by
  obtain ⟨read, isRead, ends⟩ := Option.bind_eq_some_iff.1 found
  obtain ⟨declared, follows, ends⟩ := Option.bind_eq_some_iff.1 ends
  have tells := Declared.tells_start.foldlM follows
  refine ⟨read, isRead, ?_⟩
  rw [← Option.some.inj ends, ← List.nil_append read, ← tells.placed, Declared.placed,
    List.map_filterMap]
  congr 1
  funext declaration
  exact itemOf?_eq document declaration

theorem nodup_names_items {document : Text} {items : List Item}
    (found : items? document = some items) : (items.map Item.name).Nodup := by
  obtain ⟨read, _, rfl⟩ := items?_eq_some found
  rw [List.map_map]
  exact nodup_names_standing

end SourceCatalog.Toml
