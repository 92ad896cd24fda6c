import FractionCalculator.Json.Record
import FractionCalculator.Proofs.Values
import Mathlib.Data.List.Nodup
import Mathlib.Data.List.TakeWhile

/-!
# Objects that hold a record

An object holds a record if each field of it is a member once, in any order, its
name and its text spelled in any way, with any other members between them and
blanks wherever they may stand. It is read as the record that it holds. The reader
goes from member to member: it takes a key, then the value of the field with that
name, and keeps what it found in front of the rest. What is written for a record
is the object without blanks and other members.
-/

namespace FractionCalculator

namespace Json.Record

variable {fields : List Text} {held others found members : List (Text × Text)}
  {a b c k r s t u lead rest name value : Text} {first : Bool}

inductive Member (fields : List Text) : Text → List (Text × Text) → Prop where
  | field {a k b c v d name value : Text} (ha : Blank a) (hk : Spells k name) (hn : name ∈ fields)
    (hb : Blank b) (hc : Blank c) (hv : Spells v value) (hd : Blank d) :
    Member fields (a ++ '"' :: (k ++ '"' :: (b ++ ':' :: (c ++ '"' :: (v ++ '"' :: d)))))
      [(name, value)]
  | other {a k b c t d name : Text} (ha : Blank a) (hk : Spells k name) (hn : name ∉ fields)
    (hb : Blank b) (hc : Blank c) (ht : WellFormed .value t) (hd : Blank d) :
    Member fields (a ++ '"' :: (k ++ '"' :: (b ++ ':' :: (c ++ (t ++ d))))) []

inductive Members (fields : List Text) : Text → List (Text × Text) → Prop where
  | last {s : Text} {held : List (Text × Text)} (h : Member fields s held) : Members fields s held
  | more {s r : Text} {held others : List (Text × Text)} (h : Member fields s held)
    (h' : Members fields r others) : Members fields (s ++ ',' :: r) (held ++ others)

/-- The text of an object, and the fields that it holds. -/
inductive Object (fields : List Text) : Text → List (Text × Text) → Prop where
  | empty {a b c : Text} (ha : Blank a) (hb : Blank b) (hc : Blank c) :
    Object fields (a ++ '\x7b' :: (b ++ '\x7d' :: c)) []
  | full {a s c : Text} {held : List (Text × Text)} (ha : Blank a) (h : Members fields s held)
    (hc : Blank c) : Object fields (a ++ '\x7b' :: (s ++ '\x7d' :: c)) held

/-! ## Reading a key -/

theorem nextKey_append (h : Blank b) (first : Bool) (t : Text) :
    nextKey first (b ++ t) = nextKey first t := by
  rw [nextKey, skipBlanks_append h, nextKey]

theorem scanKey_of_spells (ha : Blank a) (hk : Spells k name) (r : Text) :
    scanKey (a ++ '"' :: (k ++ '"' :: r)) = .ok (some name, r) := by
  simp only [scanKey, expect_of_blank (c := '"') ha rfl, bind, Except.bind, scanString_of_spells hk,
    pure, Except.pure]

inductive Lead : Bool → Text → Prop where
  | first : Lead true []
  | later {d : Text} (hd : Blank d) : Lead false (d ++ [','])

theorem nextKey_of_spells (hl : Lead first lead) (ha : Blank a) (hk : Spells k name) (r : Text) :
    nextKey first (lead ++ (a ++ '"' :: (k ++ '"' :: r))) = .ok (some name, r) := by
  -- The blanks before a key are skipped with the brace, or after the comma.
  cases hl with
  | first =>
    have h := scanKey_of_spells (a := []) (by simp [Blank]) hk r
    rw [List.nil_append, nextKey_append ha, nextKey, skipBlanks_cons rfl]
    simpa using h
  | later hd =>
    have h := scanKey_of_spells ha hk r
    rw [List.append_assoc, nextKey_append hd, List.singleton_append, nextKey, skipBlanks_cons rfl]
    simpa using h

theorem nextKey_brace (h : Blank b) (first : Bool) (r : Text) :
    nextKey first (b ++ '\x7d' :: r) = .ok (none, r) := by
  rw [nextKey_append h, nextKey, skipBlanks_cons rfl]
  rfl

/-! ## Reading a member -/

theorem scanValue_of_spells {v : Text} (hc : Blank c) (hv : Spells v value) (r : Text) :
    scanValue (c ++ '"' :: (v ++ '"' :: r)) = .ok (value, r) := by
  rw [scanValue, skipBlanks_append hc, skipBlanks_cons rfl]
  exact scanString_of_spells hv r

theorem scanMember_of_mem (hn : name ∈ fields) (hf : found.lookup name = none)
    (hc : expect ':' t = .ok u) (hv : scanValue u = .ok (value, r)) :
    scanMember fields found name t = .ok ((name, value) :: found, r) := by
  simp [scanMember, hn, hf, hc, hv, bind, Except.bind, pure, Except.pure]

theorem scanMember_of_not_mem (found : List (Text × Text)) (hn : name ∉ fields)
    (hc : expect ':' t = .ok u) (hv : skipValue u = .ok r) :
    scanMember fields found name t = .ok (found, r) := by
  simp [scanMember, hn, hc, hv, bind, Except.bind, pure, Except.pure]

theorem scanMembers_of_close (h : nextKey first t = .ok (none, r)) :
    scanMembers fields found first t = .ok (found, r) := by
  rw [scanMembers]
  split <;> simp_all

theorem scanMembers_of_member {found' : List (Text × Text)} (h : nextKey first t = .ok (some name, u))
    (hm : scanMember fields found name u = .ok (found', r)) :
    scanMembers fields found first t = scanMembers fields found' false r := by
  rw [scanMembers]
  split
  · next he => rw [h] at he; cases he
  · next he => rw [h] at he; cases he
  · next name' u' he =>
    obtain ⟨rfl, rfl⟩ : name = name' ∧ u = u' := by simpa [h] using he
    split
    · next he => rw [hm] at he; cases he
    · next found'' r' he =>
      obtain ⟨rfl, rfl⟩ : found' = found'' ∧ r = r' := by simpa [hm] using he
      rfl

theorem scanMembers_of_lead (h : Member fields s held)
    (hf : ∀ m ∈ held, found.lookup m.1 = none) (hl : Lead first lead) (hr : Delimits rest) :
    ∃ d, Blank d ∧ scanMembers fields found first (lead ++ (s ++ rest)) =
      scanMembers fields (held.reverse ++ found) false (d ++ rest) := by
  cases h with
  | @field a k b c v d name value ha hk hn hb hc hv hd =>
    refine ⟨d, hd, ?_⟩
    have hm := scanMember_of_mem hn (hf _ List.mem_cons_self)
      (expect_of_blank (c := ':') hb rfl (c ++ '"' :: (v ++ '"' :: (d ++ rest))))
      (scanValue_of_spells hc hv _)
    simp only [List.append_assoc, List.cons_append]
    exact scanMembers_of_member (nextKey_of_spells hl ha hk _) hm
  | @other a k b c t d name ha hk hn hb hc ht hd =>
    refine ⟨d, hd, ?_⟩
    have hv : skipValue (c ++ (t ++ (d ++ rest))) = .ok (d ++ rest) :=
      (skipIn_append hc [] _).trans (skipValue_append ht (hr.append hd))
    have hm := scanMember_of_not_mem found hn (expect_of_blank (c := ':') hb rfl _) hv
    simp only [List.append_assoc, List.cons_append]
    exact scanMembers_of_member (nextKey_of_spells hl ha hk _) hm

/-! ## Reading a record -/

def Due (fields : List Text) (found members : List (Text × Text)) : Prop :=
  (members.map (·.1)).Nodup ∧ ∀ m ∈ members, m.1 ∈ fields ∧ found.lookup m.1 = none

theorem Due.tail {m : Text × Text} {members : List (Text × Text)}
    (h : Due fields found (m :: members)) : Due fields (m :: found) members := by
  obtain ⟨hd, hm⟩ := h
  rw [List.map_cons, List.nodup_cons] at hd
  refine ⟨hd.2, fun m' hm' => ?_⟩
  obtain ⟨hf, hl⟩ := hm m' (List.mem_cons_of_mem _ hm')
  have hne : m'.1 ≠ m.1 := by
    intro he
    exact hd.1 (he ▸ List.mem_map_of_mem hm')
  exact ⟨hf, by rw [List.lookup_cons, beq_false_of_ne hne, hl]⟩

theorem Due.after (h : Due fields found (held ++ others)) :
    Due fields (held.reverse ++ found) others := by
  induction held generalizing found with
  | nil => exact h
  | cons m held ih =>
    rw [List.reverse_cons, List.append_assoc]
    exact ih h.tail

theorem scanMembers_of_members (h : Members fields s held) (hd : Due fields found held)
    (hl : Lead first lead) (r : Text) :
    scanMembers fields found first (lead ++ (s ++ '\x7d' :: r)) =
      .ok (held.reverse ++ found, r) := by
  -- What was found stays below what is found next, so the fields come out in reverse.
  induction h generalizing found first lead with
  | @last s held h =>
    have hf : ∀ m ∈ held, found.lookup m.1 = none := fun m hm => (hd.2 m hm).2
    have hr : Delimits ('\x7d' :: r) := delimits_cons rfl (by decide) r
    obtain ⟨b, hb, he⟩ := scanMembers_of_lead h hf hl hr
    rw [he]
    exact scanMembers_of_close (nextKey_brace hb false r)
  | @more s t held others h _ ih =>
    have hf : ∀ m ∈ held, found.lookup m.1 = none :=
      fun m hm => (hd.2 m (List.mem_append_left _ hm)).2
    have hr : Delimits (',' :: (t ++ '\x7d' :: r)) := delimits_cons rfl (by decide) _
    obtain ⟨b, hb, he⟩ := scanMembers_of_lead h hf hl hr
    have hn := ih hd.after (.later hb)
    rw [List.append_assoc, List.singleton_append] at hn
    rw [List.append_assoc, List.cons_append, he, hn, List.reverse_append, List.append_assoc]

theorem scan_brace (ha : Blank a) (t : Text) :
    scan fields (a ++ '\x7b' :: t) = scanMembers fields [] true t := by
  rw [scan, skipBlanks_append ha, skipBlanks_cons rfl]
  rfl

theorem scan_of_object (h : Object fields t held) (hd : Due fields [] held) :
    ∃ c, Blank c ∧ scan fields t = .ok (held.reverse, c) := by
  cases h with
  | empty ha hb hc =>
    refine ⟨_, hc, ?_⟩
    rw [scan_brace ha]
    exact scanMembers_of_close (nextKey_brace hb true _)
  | full ha h hc =>
    refine ⟨_, hc, ?_⟩
    rw [scan_brace ha]
    simpa using scanMembers_of_members h hd .first _

theorem lookup_reverse {members : List (Text × Text)} (h : (members.map (·.1)).Nodup)
    {m : Text × Text} (hm : m ∈ members) : members.reverse.lookup m.1 = some m.2 := by
  obtain ⟨front, back, hs⟩ := List.append_of_mem (List.mem_reverse.2 hm)
  have hd : ((front ++ m :: back).map (·.1)).Nodup := by
    rw [← hs, List.map_reverse]
    exact List.nodup_reverse.2 h
  rw [hs, List.lookup_eq_some_iff]
  refine ⟨front, back, rfl, fun p hp => ?_⟩
  rw [List.map_append, List.map_cons, List.nodup_append] at hd
  have hne := hd.2.2 p.1 (List.mem_map_of_mem hp) m.1 List.mem_cons_self
  simpa using hne.symm

theorem mapM_eq_some {f : Text → Option Text} {members : List (Text × Text)}
    (h : ∀ m ∈ members, f m.1 = some m.2) :
    (members.map (·.1)).mapM f = some (members.map (·.2)) := by
  induction members with
  | nil => rfl
  | cons m members ih =>
    obtain ⟨hm, hr⟩ := List.forall_mem_cons.1 h
    rw [List.map_cons, List.mapM_cons, hm, ih hr]
    rfl

/-- A record is read from any object that holds it, if its fields have different names. -/
theorem read_of_object (h : Object (members.map (·.1)) t held) (hp : held.Perm members)
    (hn : (members.map (·.1)).Nodup) : read (members.map (·.1)) t = .ok (members.map (·.2)) := by
  have hk : (held.map (·.1)).Nodup := (hp.map _).nodup_iff.2 hn
  have hd : Due (members.map (·.1)) [] held :=
    ⟨hk, fun m hm => ⟨List.mem_map_of_mem (hp.mem_iff.1 hm), rfl⟩⟩
  obtain ⟨c, hc, hs⟩ := scan_of_object h hd
  have hb : skipBlanks c = [] := List.dropWhile_eq_nil_iff.2 hc
  rw [read, hs]
  dsimp only
  -- Each field is looked up by its name, so their order in the object is lost here.
  rw [mapM_eq_some fun m hm => lookup_reverse hk (hp.mem_iff.2 hm)]
  simp [hb]

/-! ## Writing a record -/

def writeRest (members : List (Text × Text)) : Text :=
  members.flatMap (fun m => ',' :: writeMember m) ++ ['\x7d']

theorem intercalate_writeMember (m : Text × Text) (members : List (Text × Text)) :
    List.intercalate [','] ((m :: members).map writeMember) =
      writeMember m ++ members.flatMap fun m => ',' :: writeMember m := by
  induction members generalizing m with
  | nil => simp
  | cons m' members ih =>
    rw [List.map_cons, List.map_cons, List.intercalate_cons_cons, ← List.map_cons, ih,
      List.flatMap_cons]
    simp

theorem write_cons (m : Text × Text) (members : List (Text × Text)) :
    write (m :: members) = '\x7b' :: (writeMember m ++ writeRest members) := by
  rw [write, intercalate_writeMember, writeRest, List.cons_append, List.append_assoc]

theorem member_writeMember {m : Text × Text} (h : m.1 ∈ fields) :
    Member fields (writeMember m) [m] := by
  have hb : Blank [] := by simp [Blank]
  have hm := Member.field hb (spells_escape m.1) h hb hb (spells_escape m.2) hb
  simpa [writeMember, quote] using hm

theorem members_writeMember {m : Text × Text} (h : ∀ p ∈ m :: members, p.1 ∈ fields) :
    Members fields (writeMember m ++ members.flatMap fun p => ',' :: writeMember p)
      (m :: members) := by
  induction members generalizing m with
  | nil =>
    rw [List.flatMap_nil, List.append_nil]
    exact .last (member_writeMember (h m List.mem_cons_self))
  | cons m' members ih =>
    obtain ⟨hm, hr⟩ := List.forall_mem_cons.1 h
    exact .more (member_writeMember hm) (ih hr)

theorem object_write (h : ∀ p ∈ members, p.1 ∈ fields) : Object fields (write members) members := by
  have hb : Blank [] := by simp [Blank]
  cases members with
  | nil => exact .empty hb hb hb
  | cons m members =>
    rw [write_cons, writeRest, ← List.append_assoc]
    exact .full hb (members_writeMember h) hb

end Json.Record
end FractionCalculator
