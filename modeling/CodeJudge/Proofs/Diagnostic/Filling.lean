import CodeJudge.Diagnostic.Rule
import CodeJudge.Proofs.Text.Replace
/-!
Filling templates. Values are put in name by name, so a later name may be found in a value that is
already there. Where that cannot happen the template is filled as if all its names were read first
and then replaced at once.
-/
namespace CodeJudge

open Text

/-- A part of a template: a character, or the place of a value. -/
inductive Piece where
  | char (c : Char)
  | slot (name : String)
  deriving DecidableEq, Repr

namespace Piece

/-- A name in braces. -/
def placeholder (name : String) : List Char := '\x7b' :: (name.toList ++ ['\x7d'])

theorem placeholder_ne_nil (name : String) : placeholder name ≠ [] := List.cons_ne_nil _ _

theorem to_list_placeholder (name : String) :
    ("\x7b" ++ name ++ "\x7d").toList = placeholder name := by
  simp [placeholder]

theorem replace_placeholder (name : String) (v : List Char) :
    replaceFrom (placeholder name) v 0 (placeholder name) = v := by
  have hwhole := replace_from_needle (placeholder_ne_nil name) v []
  rwa [List.append_nil, replaceFrom_nil, List.append_nil] at hwhole

/-- The parts of a template, where `passed` characters of a name in braces are still to be left
out. -/
def parse (names : List String) : Nat → List Char → List Piece
  | _, [] => []
  | passed + 1, _ :: cs => parse names passed cs
  | 0, c :: cs =>
    match names.find? fun name => (placeholder name).isPrefixOf (c :: cs) with
    | some name => slot name :: parse names ((placeholder name).length - 1) cs
    | none => char c :: parse names 0 cs

/-- A part as text, with the given text for a name. -/
def write (f : String → List Char) : Piece → List Char
  | char c => [c]
  | slot name => f name

/-- The parts with the given texts for names. -/
def writeAll (f : String → List Char) (ps : List Piece) : List Char := ps.flatMap (write f)

theorem write_all_cons (f : String → List Char) (p : Piece) (ps : List Piece) :
    writeAll f (p :: ps) = p.write f ++ writeAll f ps := List.flatMap_cons

theorem write_congr {f g : String → List Char} {p : Piece}
    (h : ∀ name, p = slot name → f name = g name) : p.write f = p.write g := by
  cases p with
  | char c => rfl
  | slot name => exact h name rfl

theorem write_all_congr {f g : String → List Char} {ps : List Piece}
    (h : ∀ name, slot name ∈ ps → f name = g name) : writeAll f ps = writeAll g ps := by
  induction ps with
  | nil => rfl
  | cons p ps ih =>
    have hp : p.write f = p.write g :=
      write_congr fun name hname => h name (hname ▸ List.mem_cons_self)
    rw [write_all_cons, write_all_cons, hp,
      ih fun name hname => h name (List.mem_cons_of_mem p hname)]

theorem length_write_all (f g : String → List Char) {name : String} {ps : List Piece}
    (hothers : ∀ other, slot other ∈ ps → other ≠ name → f other = g other) :
    (writeAll f ps).length + ps.count (slot name) * (g name).length =
      (writeAll g ps).length + ps.count (slot name) * (f name).length := by
  induction ps with
  | nil => simp [writeAll]
  | cons p ps ih =>
    have htail := ih fun other hother => hothers other (List.mem_cons_of_mem p hother)
    rw [write_all_cons, write_all_cons, List.length_append, List.length_append]
    by_cases hp : p = slot name
    · subst hp
      rw [List.count_cons_self, Nat.add_one_mul, Nat.add_one_mul, write, write]
      omega
    · have hsame : p.write f = p.write g := write_congr fun other hother =>
        hothers other (hother ▸ List.mem_cons_self) fun h => hp (h ▸ hother)
      rw [List.count_cons_of_ne hp, hsame]
      omega

/-- What is written tells the text of a name if the texts of the others are known. -/
theorem eq_of_write_all {f g : String → List Char} {name : String} {ps : List Piece}
    (hothers : ∀ other, slot other ∈ ps → other ≠ name → f other = g other)
    (hslot : slot name ∈ ps) (h : writeAll f ps = writeAll g ps) : f name = g name := by
  -- the name may stand in several places, but its texts must be of one length
  have hlen : (f name).length = (g name).length := by
    have hcount := length_write_all f g hothers
    have hpos : 0 < ps.count (slot name) := List.count_pos_iff.mpr hslot
    rw [h, Nat.add_left_cancel_iff] at hcount
    exact (Nat.eq_of_mul_eq_mul_left hpos hcount).symm
  induction ps with
  | nil => cases hslot
  | cons p ps ih =>
    rw [write_all_cons, write_all_cons] at h
    by_cases hp : p = slot name
    · subst hp
      exact (List.append_inj h hlen).1
    · have hsame : p.write f = p.write g := write_congr fun other hother =>
        hothers other (hother ▸ List.mem_cons_self) fun h => hp (h ▸ hother)
      rw [hsame] at h
      exact ih (fun other hother => hothers other (List.mem_cons_of_mem p hother))
        ((List.mem_cons.mp hslot).resolve_left (Ne.symm hp)) (List.append_cancel_left h)

/-- The names of the parts are names that were looked for. -/
theorem mem_names_of_slot {names : List String} {name : String} {passed : Nat} {cs : List Char}
    (h : slot name ∈ parse names passed cs) : name ∈ names := by
  induction cs generalizing passed with
  | nil => cases passed <;> cases h
  | cons c cs ih =>
    cases passed with
    | succ passed => exact ih h
    | zero =>
      rw [parse] at h
      split at h
      · next m hfind =>
        rcases List.mem_cons.mp h with hname | h
        · obtain rfl : name = m := by simpa using hname
          exact List.mem_of_find?_eq_some hfind
        · exact ih h
      · rcases List.mem_cons.mp h with hname | h
        · cases hname
        · exact ih h

/-- With names in their places the parts make up the template. -/
theorem write_all_placeholders (names : List String) (passed : Nat) (cs : List Char) :
    writeAll placeholder (parse names passed cs) = cs.drop passed := by
  induction cs generalizing passed with
  | nil => cases passed <;> rfl
  | cons c cs ih =>
    cases passed with
    | succ passed => exact ih passed
    | zero =>
      rw [parse]
      split
      · next name hfind =>
        have hbegins := List.find?_some hfind
        obtain ⟨rest, hrest⟩ := List.isPrefixOf_iff_prefix.mp hbegins
        rw [write_all_cons, ih, write, List.drop_zero, ← hrest]
        obtain rfl : name.toList ++ ['\x7d'] ++ rest = cs := congrArg List.tail hrest
        rw [placeholder, List.length_cons, Nat.add_sub_cancel, List.drop_left]
      · rw [write_all_cons, ih]
        rfl

/-! Templates with a single name. -/

theorem write_all_of_no_name (f : String → List Char) (cs : List Char) :
    writeAll f (parse [] 0 cs) = cs := by
  induction cs with
  | nil => rfl
  | cons c cs ih => exact congrArg (c :: ·) ih

/-- A single name is replaced in one pass over the template. -/
theorem write_all_of_name (f : String → List Char) (name : String) (passed : Nat)
    (cs : List Char) :
    writeAll f (parse [name] passed cs) = replaceFrom (placeholder name) (f name) passed cs := by
  induction cs generalizing passed with
  | nil => cases passed <;> rfl
  | cons c cs ih =>
    cases passed with
    | succ passed => exact ih passed
    | zero =>
      rw [parse, replaceFrom, List.find?_singleton]
      cases (placeholder name).isPrefixOf (c :: cs) with
      | true => exact congrArg (f name ++ ·) (ih _)
      | false => exact congrArg (c :: ·) (ih 0)

/-! Templates with several names. -/

/-- A name without braces. -/
def isPlain (name : String) : Bool := name.toList.all fun c => c != '\x7b' && c != '\x7d'

/-- Names without braces do not occur in each other's braces. -/
theorem eq_of_placeholder_occurs {name other : String} (hother : isPlain other = true)
    (h : placeholder name <:+: placeholder other) : name = other := by
  have hplain : ∀ c ∈ other.toList, c ≠ '\x7b' ∧ c ≠ '\x7d' := by
    simpa [isPlain] using hother
  rcases List.infix_cons_iff.mp h with hbegins | hinside
  · obtain ⟨rest, hrest⟩ := (List.cons_prefix_cons.mp hbegins).2
    rcases List.eq_nil_or_concat rest with rfl | ⟨front, last, rfl⟩
    · rw [List.append_nil] at hrest
      exact String.toList_inj.mp (List.append_cancel_right hrest)
    · -- the closing brace of the name would stand inside the other one
      have hfront : name.toList ++ ['\x7d'] ++ front = other.toList := by
        rw [List.concat_eq_append, ← List.append_assoc] at hrest
        exact (List.append_inj' hrest rfl).1
      exact absurd rfl (hplain '\x7d' (by simp [← hfront])).2
  · have hopening : '\x7b' ∈ other.toList ++ ['\x7d'] := hinside.subset List.mem_cons_self
    rcases List.mem_append.mp hopening with hc | hc
    · exact absurd rfl (hplain _ hc).1
    · cases hc with
      | tail _ hc => cases hc

/-- What may stand behind a name: a character that no name in braces has. -/
def isApart (names : List String) : Piece → Bool
  | char c => names.all fun name => !(placeholder name).contains c
  | slot _ => false

/-- The names do not touch what comes next, and braces stand around names only. -/
def areSpaced (names : List String) : List Piece → Bool
  | [] => true
  | char c :: ps => c != '\x7b' && areSpaced names ps
  | slot _ :: ps => ps.head?.all (isApart names) && areSpaced names ps

/-- A name is replaced in each part by itself. -/
theorem replace_write_all {names : List String} {name : String} (hname : name ∈ names)
    (v : List Char) (f : String → List Char) {ps : List Piece}
    (hps : areSpaced names ps = true) :
    replaceFrom (placeholder name) v 0 (writeAll f ps) =
      writeAll (fun m => replaceFrom (placeholder name) v 0 (f m)) ps := by
  induction ps with
  | nil => rfl
  | cons p ps ih =>
    rw [write_all_cons, write_all_cons]
    cases p with
    | char c =>
      obtain ⟨hbrace, hps⟩ := Bool.and_eq_true_iff.mp hps
      -- a name in braces begins with a brace, and this is none
      have hother : ¬ placeholder name <+: c :: writeAll f ps := by
        intro hbegins
        have hc : '\x7b' = c := (List.cons_prefix_cons.mp hbegins).1
        simp [← hc] at hbrace
      rw [write, List.singleton_append, replace_from_cons v hother, ih hps]
      rfl
    | slot m =>
      obtain ⟨hnext, hps⟩ := Bool.and_eq_true_iff.mp hps
      -- what comes behind the value is no part of a name in braces
      have hrest : ∀ c ∈ (writeAll f ps).head?, c ∉ placeholder name := by
        cases ps with
        | nil => simp [writeAll]
        | cons q ps =>
          cases q with
          | slot _ => cases hnext
          | char d =>
            rintro c ⟨⟩
            simpa using List.all_eq_true.mp hnext name hname
      rw [write, replace_from_append (placeholder_ne_nil name) v hrest, ih hps]
      rfl

end Piece

open Piece

namespace Captured

/-- What is put in for a value, found or not. -/
def shown (value : Option String) : List Char := (value.getD "unknown").toList

/-- The template with all values put in at once: what is put in is not read again. -/
def fillAtOnce (c : Captured) (template : String) : String :=
  String.ofList (writeAll (fun name => shown (c.value? name))
    (parse (c.map (·.1)) 0 template.toList))

/-- Values put in name by name. -/
def fillChars (c : Captured) (cs : List Char) : List Char :=
  c.foldl (fun cs m => replaceFrom (placeholder m.1) (shown m.2) 0 cs) cs

theorem fill_chars_cons (m : String × Option String) (c : Captured) (cs : List Char) :
    fillChars (m :: c) cs =
      fillChars c (replaceFrom (placeholder m.1) (shown m.2) 0 cs) := List.foldl_cons ..

theorem fill_eq (c : Captured) (template : String) :
    c.fill template = String.ofList (c.fillChars template.toList) := by
  induction c generalizing template with
  | nil => exact String.ofList_toList.symm
  | cons m c ih =>
    have hput : Text.replace template ("\x7b" ++ m.1 ++ "\x7d") (m.2.getD "unknown") =
        String.ofList (replaceFrom (placeholder m.1) (shown m.2) 0 template.toList) := by
      rw [Text.replace, to_list_placeholder, shown]
    have hstep : Captured.fill (m :: c) template = Captured.fill c (String.ofList
        (replaceFrom (placeholder m.1) (shown m.2) 0 template.toList)) := by
      rw [← hput]
      rfl
    rw [fill_chars_cons, hstep, ih, String.toList_ofList]

/-- A template with space around its names is filled in each part by itself. -/
theorem fill_write_all {names : List String} {ps : List Piece} (hps : areSpaced names ps = true)
    {c : Captured} (hc : ∀ m ∈ c, m.1 ∈ names) (f : String → List Char) :
    c.fillChars (writeAll f ps) = writeAll (fun name => c.fillChars (f name)) ps := by
  induction c generalizing f with
  | nil => rfl
  | cons m c ih =>
    obtain ⟨hm, hc⟩ := List.forall_mem_cons.mp hc
    rw [fill_chars_cons, replace_write_all hm (shown m.2) f hps]
    exact ih hc _

/-- A text stays as it is if it has no names in braces but those that stand for themselves. -/
theorem fill_chars_eq_self {c : Captured} {cs : List Char}
    (h : ∀ m ∈ c, placeholder m.1 <:+: cs → shown m.2 = placeholder m.1) :
    c.fillChars cs = cs := by
  induction c with
  | nil => rfl
  | cons m c ih =>
    obtain ⟨hm, hc⟩ := List.forall_mem_cons.mp h
    have hself := (replace_from_eq_self_iff (placeholder_ne_nil m.1) (shown m.2) cs).mpr hm
    rw [fill_chars_cons, hself]
    exact ih hc

/-- No value has a name in braces that is put in behind it, but one that stands for itself. -/
def IsSettled (c : Captured) : Prop :=
  c.Pairwise fun a b => placeholder b.1 <:+: shown a.2 → shown b.2 = placeholder b.1

theorem is_settled_of_no_brace {c : Captured} (h : ∀ m ∈ c, '\x7b' ∉ shown m.2) :
    c.IsSettled := by
  rw [IsSettled, List.pairwise_iff_forall_sublist]
  intro a b hab hoccurs
  have ha : a ∈ c := hab.subset List.mem_cons_self
  exact absurd (hoccurs.subset List.mem_cons_self) (h a ha)

/-- A name in its place becomes its value and stays it. -/
theorem fill_placeholder {c : Captured} (hplain : ∀ m ∈ c, isPlain m.1 = true)
    (hsettled : c.IsSettled) {name : String} (h : name ∈ c.map (·.1)) :
    c.fillChars (placeholder name) = shown (c.value? name) := by
  induction c with
  | nil => cases h
  | cons m c ih =>
    obtain ⟨hlater, hsettled⟩ := List.pairwise_cons.mp hsettled
    obtain ⟨hm, hplain⟩ := List.forall_mem_cons.mp hplain
    rw [fill_chars_cons, value?]
    by_cases hname : name = m.1
    · subst hname
      rw [replace_placeholder, List.lookup_cons_self]
      exact fill_chars_eq_self hlater
    · have hrest : name ∈ c.map (·.1) := (List.mem_cons.mp h).resolve_left hname
      have hself : replaceFrom (placeholder m.1) (shown m.2) 0 (placeholder name) =
          placeholder name := by
        refine (replace_from_eq_self_iff (placeholder_ne_nil m.1) (shown m.2) _).mpr ?_
        intro hoccurs
        obtain ⟨other, hother, rfl⟩ := List.mem_map.mp hrest
        exact absurd (eq_of_placeholder_occurs (hplain other hother) hoccurs).symm hname
      have hkey : (name == m.1) = false := by simpa using hname
      rw [hself, List.lookup_cons, hkey]
      exact ih hplain hsettled hrest

/-- Where names have space around them each place is filled by itself. -/
theorem fill_eq_write_all {c : Captured} {names : List String} {template : String}
    (hspaced : areSpaced names (parse names 0 template.toList) = true)
    (hnames : ∀ m ∈ c, m.1 ∈ names) :
    c.fill template = String.ofList
      (writeAll (fun name => c.fillChars (placeholder name)) (parse names 0 template.toList)) := by
  have hparts := write_all_placeholders names 0 template.toList
  rw [List.drop_zero] at hparts
  rw [fill_eq, ← fill_write_all hspaced hnames, hparts]

/-- Where moreover the values are settled, they may be put in at once. -/
theorem fill_eq_at_once {c : Captured} {template : String}
    (hplain : ∀ m ∈ c, isPlain m.1 = true) (hsettled : c.IsSettled)
    (hspaced : areSpaced (c.map (·.1)) (parse (c.map (·.1)) 0 template.toList) = true) :
    c.fill template = c.fillAtOnce template := by
  rw [fill_eq_write_all hspaced fun m hm => List.mem_map_of_mem hm, fillAtOnce]
  refine congrArg String.ofList (write_all_congr fun name hslot => ?_)
  exact fill_placeholder hplain hsettled (mem_names_of_slot hslot)

/-- Of two values the first must be settled if both may be put in at once where it is named. -/
theorem is_settled_of_fill_eq {m n : String} {e f : Option String} (hne : m ≠ n)
    (hn : isPlain n = true) {template : String}
    (hspaced : areSpaced [m, n] (parse [m, n] 0 template.toList) = true)
    (hslot : slot m ∈ parse [m, n] 0 template.toList)
    (h : fill [(m, e), (n, f)] template = fillAtOnce [(m, e), (n, f)] template) :
    IsSettled [(m, e), (n, f)] := by
  have hself : replaceFrom (placeholder m) (shown e) 0 (placeholder n) = placeholder n :=
    (replace_from_eq_self_iff (placeholder_ne_nil m) _ _).mpr fun hoccurs =>
      absurd (eq_of_placeholder_occurs hn hoccurs) hne
  have hfirst : value? [(m, e), (n, f)] m = e := by simp [value?]
  have hlast : value? [(m, e), (n, f)] n = f := by
    have hkey : (n == m) = false := by simpa using hne.symm
    simp [value?, List.lookup_cons, hkey]
  rw [fill_eq_write_all hspaced fun _ hm => List.mem_map_of_mem hm, fillAtOnce,
    String.ofList_inj] at h
  have hvalue := eq_of_write_all ?_ hslot h
  · rw [fill_chars_cons, fill_chars_cons, replace_placeholder, hfirst] at hvalue
    have hkept := (replace_from_eq_self_iff (placeholder_ne_nil n) _ _).mp hvalue
    simpa [IsSettled] using hkept
  · intro other hother hdiff
    have hname := mem_names_of_slot hother
    obtain rfl : other = n := by simpa [hdiff] using hname
    rw [fill_chars_cons, hself, fill_chars_cons, replace_placeholder, hlast]
    rfl

/-- A single value may be put in at once into every template. -/
theorem fill_eq_at_once_of_single {c : Captured} (hc : c.length ≤ 1) (template : String) :
    c.fill template = c.fillAtOnce template := by
  rw [fill_eq, fillAtOnce]
  cases c with
  | nil => exact congrArg String.ofList (write_all_of_no_name _ _).symm
  | cons m c =>
    obtain rfl : c = [] := List.eq_nil_of_length_eq_zero (by simpa using hc)
    have hvalue : Captured.value? [m] m.1 = m.2 := by
      rw [value?, List.lookup_cons_self]
      rfl
    have honce := write_all_of_name (fun name => shown (Captured.value? [m] name)) m.1 0
      template.toList
    rw [hvalue] at honce
    exact congrArg String.ofList honce.symm

end Captured

end CodeJudge
