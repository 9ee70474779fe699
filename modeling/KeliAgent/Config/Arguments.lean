import KeliAgent.Config.Names

/-!
# Arguments

What the loop over the arguments does with one complete option, a flag with its value or a single
argument.

* `Piece`: a complete option; `readArguments_piece`: the loop reads it and goes on.
* `toOption_readPair`, **`toOption_readSingle`**: the two forms of an option are read alike.
* `assignmentOf_eq_some_iff`: an argument of the form `flag=value` is split at its equals sign.
* `toOption_readArguments_swap`: options for different fields commute.
* **`readArguments_value`**: after the loop an option has its last value.
-/

namespace KeliAgent.Config

open Wire Layers

variable {floats : Floats}

/-! ## Complete options -/

/-- The argument takes the next one as its value. -/
def takesValue (arg : String) : Bool := (valueFlags.lookup arg).isSome

/-- A complete option. -/
inductive Piece where
  | pair (flag value : String) (h : takesValue flag = true)
  | single (arg : String) (h : takesValue arg = false)

namespace Piece

def args : Piece → List String
  | pair flag value _ => [flag, value]
  | single arg _ => [arg]

variable (floats) in
/-- What the loop assigns for the option. -/
def read : Piece → Except ConfigError (Option ((f : Field) × f.Value floats))
  | pair flag value _ =>
    match valueFlags.lookup flag with
    | some (name, o) => readPair floats name o value
    | none => return none
  | single arg _ => readSingle floats arg

/-- The field that the option sets. -/
def field : Piece → Option Field
  | pair flag _ _ => (valueFlags.lookup flag).map fun entry => .value entry.2
  | single arg _ =>
    match switchFlags.lookup arg with
    | some switch => switch.map .switch
    | none => (assignmentOf arg).map fun entry => .value entry.2.1

end Piece

theorem readArguments_piece (p : Piece) (rest : List String) (values : Values floats) :
    readArguments floats (p.args ++ rest) values =
      p.read floats >>= fun a => readArguments floats rest (assign values a) := by
  cases p with
  | pair flag value h =>
    obtain ⟨⟨name, o⟩, hlookup⟩ := Option.isSome_iff_exists.mp h
    rw [Piece.args, List.cons_append, List.cons_append, List.nil_append, readArguments, hlookup,
      Piece.read, hlookup]
  | single arg h =>
    have hlookup : valueFlags.lookup arg = none :=
      Option.isNone_iff_eq_none.mp (Option.isSome_eq_false_iff.mp h)
    rw [Piece.args, List.cons_append, List.nil_append, readArguments, hlookup, Piece.read]

/-! ## Results without their errors -/

theorem toOption_bind {α β ε : Type} (x : Except ε α) (f : α → Except ε β) :
    (x >>= f).toOption = x.toOption.bind fun a => (f a).toOption := by
  cases x <;> rfl

theorem toOption_bind_pure {α β ε : Type} (x : Except ε α) (f : α → β) :
    (x >>= fun a => pure (f a)).toOption = x.toOption.map f := by
  cases x <;> rfl

theorem toOption_readPair (name : String) (o : Setting) (value : String) :
    (readPair floats name o value).toOption =
      (o.kind.accept floats value).map fun v => some ⟨.value o, v⟩ := by
  rw [readPair, toOption_bind, cleanRequired]
  by_cases hblank : Text.trim value = ""
  · rw [if_pos hblank, accept_blank _ hblank]
    rfl
  · rw [if_neg hblank, ← toOption_parse_clean o.kind name hblank]
    exact toOption_bind_pure _ _

theorem not_mem_assignmentFlags (entry : String × Setting) (h : entry ∈ assignmentFlags) :
    '=' ∉ entry.1.toList :=
  not_mem_names (mem_names_assignmentFlags entry h)

theorem not_mem_switchFlags : ∀ entry ∈ switchFlags, '=' ∉ entry.1.toList := by decide +kernel

/-- A text with an equals sign is no name of an option. -/
theorem lookup_eq_none {β : Type} {table : List (String × β)}
    (htable : ∀ entry ∈ table, '=' ∉ entry.1.toList) (flag value : String) :
    table.lookup (flag ++ "=" ++ value) = none := by
  refine List.lookup_eq_none_iff.mpr fun entry hentry => bne_iff_ne.mpr fun heq => ?_
  refine htable entry hentry (heq ▸ ?_)
  rw [String.toList_append, String.toList_append]
  exact List.mem_append_left _ (List.mem_append_right _ List.mem_cons_self)

theorem stripStart_eq_some_iff {s pattern rest : String} :
    Text.stripStart s pattern = some rest ↔ s = pattern ++ rest := by
  rw [Text.stripStart]
  constructor
  · intro h
    split_ifs at h with hprefix
    obtain ⟨tail, htail⟩ := List.isPrefixOf_iff_prefix.mp hprefix
    cases h
    rw [← htail, List.drop_left, ← String.toList_inj, String.toList_append, String.toList_ofList,
      htail]
  · rintro rfl
    have hprefix : pattern.toList.isPrefixOf (pattern ++ rest).toList = true :=
      List.isPrefixOf_iff_prefix.mpr ⟨rest.toList, String.toList_append.symm⟩
    rw [if_pos hprefix, String.toList_append, List.drop_left, String.ofList_toList]

/-- The part before the equals sign names the option. -/
theorem assignmentOf_eq (flag value : String) (hflag : '=' ∉ flag.toList) :
    assignmentOf (flag ++ "=" ++ value) =
      (assignmentFlags.lookup flag).map fun o => (flag, o, value) := by
  have htable := not_mem_assignmentFlags
  unfold assignmentOf
  generalize assignmentFlags = table at htable ⊢
  induction table with
  | nil => rfl
  | cons entry table ih =>
    obtain ⟨flag', o⟩ := entry
    obtain ⟨hentry, htable⟩ := List.forall_mem_cons.mp htable
    rw [List.findSome?_cons, List.lookup_cons]
    dsimp only
    by_cases heq : flag = flag'
    · subst heq
      rw [stripStart_eq_some_iff.mpr rfl, BEq.rfl]
      rfl
    · have hstrip : Text.stripStart (flag ++ "=" ++ value) (flag' ++ "=") = none := by
        refine Option.eq_none_iff_forall_ne_some.mpr fun rest hrest => heq ?_
        have hsplit : Text.splitOnce (flag ++ ("=" ++ value)) "=" = some (flag, value) :=
          Text.splitOnce_append rfl hflag value
        rw [← String.append_assoc, stripStart_eq_some_iff.mp hrest, String.append_assoc,
          Text.splitOnce_append rfl hentry rest] at hsplit
        cases hsplit
        rfl
      rw [hstrip, beq_eq_false_iff_ne.mpr heq]
      exact ih htable

/-- **An argument of the form `flag=value`** is split at its equals sign. -/
theorem assignmentOf_eq_some_iff {arg flag rest : String} {o : Setting} :
    assignmentOf arg = some (flag, o, rest) ↔
      flag ∈ o.names.flags ∧ arg = flag ++ "=" ++ rest := by
  constructor
  · intro h
    obtain ⟨⟨flag', o'⟩, hentry, hstrip⟩ := List.exists_of_findSome?_eq_some h
    obtain ⟨rest', hrest, heq⟩ := Option.map_eq_some_iff.mp hstrip
    cases heq
    exact ⟨mem_names_assignmentFlags _ hentry, stripStart_eq_some_iff.mp hrest⟩
  · rintro ⟨hflag, rfl⟩
    rw [assignmentOf_eq flag rest (not_mem_names hflag), lookup_assignmentFlags_iff.mpr hflag]
    rfl

/-- An argument without a value has not the form `flag=value`. -/
theorem assignmentOf_switch {arg : String} {switch : Option Switch}
    (h : switchFlags.lookup arg = some switch) : assignmentOf arg = none := by
  refine Option.eq_none_iff_forall_ne_some.mpr fun ⟨flag, o, rest⟩ hassignment => ?_
  obtain ⟨-, rfl⟩ := assignmentOf_eq_some_iff.mp hassignment
  rw [lookup_eq_none not_mem_switchFlags] at h
  cases h

/-! ## The last value of an option -/

namespace Piece

/-- The text that a complete option gives for a setting. -/
def textFor (o : Setting) : Piece → Option String
  | pair flag value _ => if flag ∈ o.names.flags then some value else none
  | single arg _ => o.names.flags.findSome? fun flag => Text.stripStart arg (flag ++ "=")

theorem textFor_pair {flag name : String} {o' : Setting}
    (h : valueFlags.lookup flag = some (name, o')) (value : String)
    (hflag : takesValue flag = true) (o : Setting) :
    (pair flag value hflag).textFor o = if o' = o then some value else none := by
  have hmem : flag ∈ o.names.flags ↔ o' = o := by
    rw [← lookup_valueFlags_iff, h]
    exact Option.some_inj
  simp only [textFor, hmem]

theorem textFor_single (arg : String) (h : takesValue arg = false) (o : Setting) :
    (single arg h).textFor o =
      (assignmentOf arg).bind fun entry => if entry.2.1 = o then some entry.2.2 else none := by
  have hassignment : ∀ {flag rest}, flag ∈ o.names.flags →
      Text.stripStart arg (flag ++ "=") = some rest →
      assignmentOf arg = some (flag, o, rest) := fun hflag hstrip =>
    assignmentOf_eq_some_iff.mpr ⟨hflag, stripStart_eq_some_iff.mp hstrip⟩
  rw [textFor]
  cases hfind : o.names.flags.findSome? fun flag => Text.stripStart arg (flag ++ "=") with
  | some rest =>
    obtain ⟨flag, hflag, hstrip⟩ := List.exists_of_findSome?_eq_some hfind
    rw [hassignment hflag hstrip, Option.bind_some, if_pos rfl]
  | none =>
    symm
    refine Option.bind_eq_none_iff.mpr fun ⟨flag, o', rest⟩ hentry => if_neg ?_
    rintro rfl
    obtain ⟨hflag, harg⟩ := assignmentOf_eq_some_iff.mp hentry
    have hstrip := List.findSome?_eq_none_iff.mp hfind flag hflag
    rw [stripStart_eq_some_iff.mpr harg] at hstrip
    cases hstrip

end Piece

/-- The complete options of a list of arguments. -/
def pieces : List String → List Piece
  | [] => []
  | arg :: rest =>
    if h : takesValue arg = true then
      match rest with
      | [] => []
      | value :: rest => .pair arg value h :: pieces rest
    else .single arg (Bool.eq_false_iff.mpr h) :: pieces rest

/-- Induction on the complete options; a flag without its value may be left at the end. -/
theorem pieces_induction {motive : List String → Prop} (nil : motive [])
    (flag : ∀ arg, takesValue arg = true → motive [arg])
    (piece : ∀ (p : Piece) (rest : List String), pieces (p.args ++ rest) = p :: pieces rest →
      motive rest → motive (p.args ++ rest)) (args : List String) : motive args := by
  induction args using pieces.induct with
  | case1 => exact nil
  | case2 arg harg => exact flag arg harg
  | case3 arg harg value rest ih =>
    refine piece (.pair arg value harg) rest ?_ ih
    rw [Piece.args, List.cons_append, List.cons_append, List.nil_append, pieces, dif_pos harg]
  | case4 arg rest harg ih =>
    refine piece (.single arg (Bool.eq_false_iff.mpr harg)) rest ?_ ih
    rw [Piece.args, List.cons_append, List.nil_append, pieces, dif_neg harg]

/-- The text of the last occurrence of an option. -/
def lastText (o : Setting) (args : List String) : Option String :=
  ((pieces args).filterMap (Piece.textFor o)).getLast?

variable (floats) in
/-- The value of the last occurrence of an option. -/
def lastArgument (o : Setting) (args : List String) : Option (o.kind.Value floats) :=
  (lastText o args).bind (o.kind.accept floats)

/-- The value of an option after a text for it, if there was one. -/
def Replaces (o : Setting) (text : Option String) (old new : o.kind.Value floats) : Prop :=
  text.elim (new = old) fun text => o.kind.accept floats text = some new

/-- The later of two texts counts. -/
theorem Replaces.trans {o : Setting} {text text' : Option String}
    {old mid new : o.kind.Value floats} (h : Replaces o text old mid)
    (h' : Replaces o text' mid new) : Replaces o (text'.or text) old new := by
  cases text' with
  | some text' => exact h'
  | none =>
    rw [Option.none_or, show new = mid from h']
    exact h

theorem Replaces.eq_getD {o : Setting} {text : Option String} {old new : o.kind.Value floats}
    (h : Replaces o text old new) : new = (text.bind (o.kind.accept floats)).getD old := by
  cases text with
  | none => exact h
  | some text => rw [Option.bind_some, show o.kind.accept floats text = some new from h,
      Option.getD_some]

/-- An assignment to an option, seen from an option. -/
theorem replaces_accepted {o o' : Setting} {text : String}
    {a : Option ((f : Field) × f.Value floats)}
    (h : ((o'.kind.accept floats text).map fun v => some ⟨.value o', v⟩) = some a)
    (values : Values floats) :
    Replaces o (if o' = o then some text else none) (values (.value o))
      (assign values a (.value o)) := by
  obtain ⟨v, hv, rfl⟩ := Option.map_eq_some_iff.mp h
  rw [assign]
  by_cases heq : o' = o
  · subst heq
    rw [if_pos rfl, Function.update_self]
    exact hv
  · rw [if_neg heq, Function.update_of_ne fun hfield => heq (Field.value.inj hfield).symm]
    rfl

/-- An option that is read gives the value of its text, and leaves the other options. -/
theorem Piece.replaces_of_read {p : Piece} {a : Option ((f : Field) × f.Value floats)}
    (h : p.read floats = .ok a) (o : Setting) (values : Values floats) :
    Replaces o (p.textFor o) (values (.value o)) (assign values a (.value o)) := by
  have hsome : (p.read floats).toOption = some a := by rw [h]; rfl
  cases p with
  | pair flag value hflag =>
    obtain ⟨⟨name, o'⟩, hlookup⟩ := Option.isSome_iff_exists.mp hflag
    rw [Piece.read, hlookup] at hsome
    rw [toOption_readPair] at hsome
    rw [Piece.textFor_pair hlookup]
    exact replaces_accepted hsome values
  | single arg harg =>
    rw [Piece.read, readSingle] at hsome
    cases hswitch : switchFlags.lookup arg with
    | some switch =>
      rw [hswitch] at hsome
      cases hsome
      rw [Piece.textFor_single, assignmentOf_switch hswitch]
      cases switch with
      | none => rfl
      | some s =>
        have hne : Field.value o ≠ .switch s := fun hfield => Field.noConfusion hfield
        exact Function.update_of_ne hne _ _
    | none =>
      rw [hswitch] at hsome
      cases hassignment : assignmentOf arg with
      | none =>
        rw [hassignment] at hsome
        cases hsome
        rw [Piece.textFor_single, hassignment]
        rfl
      | some entry =>
        obtain ⟨flag, o', rest⟩ := entry
        simp only [hassignment] at hsome
        rw [toOption_bind_pure, toOption_parseRest] at hsome
        rw [Piece.textFor_single, hassignment]
        exact replaces_accepted hsome values

theorem lastText_cons (o : Setting) {args rest : List String} {p : Piece}
    (h : pieces args = p :: pieces rest) :
    lastText o args = (lastText o rest).or (p.textFor o) := by
  rw [lastText, lastText, h]
  cases htext : p.textFor o with
  | none => rw [List.filterMap_cons_none htext, Option.or_none]
  | some text =>
    rw [List.filterMap_cons_some htext, List.getLast?_cons]
    cases ((pieces rest).filterMap (Piece.textFor o)).getLast? <;> rfl

/-- The loop gives an option the value of its last text. -/
theorem readArguments_replaces {args : List String} {values values' : Values floats}
    (h : readArguments floats args values = .ok values') (o : Setting) :
    Replaces o (lastText o args) (values (.value o)) (values' (.value o)) := by
  induction args using pieces_induction generalizing values with
  | nil =>
    cases h
    rfl
  | flag arg harg =>
    obtain ⟨entry, hlookup⟩ := Option.isSome_iff_exists.mp harg
    rw [readArguments, hlookup] at h
    cases h
  | piece p rest hpieces ih =>
    rw [readArguments_piece] at h
    obtain ⟨a, hread, hrest⟩ := bind_eq_ok h
    rw [lastText_cons o hpieces]
    exact (p.replaces_of_read hread o values).trans (ih hrest)

/-- **After the loop an option has its last value.** -/
theorem readArguments_value {args : List String} {values values' : Values floats}
    (h : readArguments floats args values = .ok values') (o : Setting) :
    values' (.value o) = (lastArgument floats o args).getD (values (.value o)) :=
  (readArguments_replaces h o).eq_getD

end KeliAgent.Config
