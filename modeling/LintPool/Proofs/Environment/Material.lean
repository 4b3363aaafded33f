import Mathlib.Tactic.Common
import Mathlib.Data.List.Basic
import LintPool.Environment.Key
import LintPool.Proofs.FileTree.Walks
import LintPool.Proofs.Path.NulFree
import LintPool.Proofs.Text.Utf8

set_option autoImplicit false

/-!
# What the fingerprint of an environment tells

The bytes that the digest is taken of are one entry after the other, of different lengths. A NUL
ends the path in an entry and a line feed ends its stamp, and neither stands in what it ends; so an
entry can be read off the front of the bytes, and the bytes tell the paths and the stamps. Two trees
therefore give the same bytes just if the manifest of the linter is the same and each file that
counts is seen alike in both.

That the digests then differ too is what is expected of SHA-256. It is stated of the two byte
strings in question, for it cannot be so of all.

## Main definitions

* `LintPool.FileTree.Lacks`, `LintPool.FileTree.ModifiedAt`, `LintPool.FileTree.Unreadable` — what
  can be seen of a file's time.
* `LintPool.SeenAlike` — a file is seen alike in two trees.
* `LintPool.SameEnvironment` — the files that count are the same in two trees, and seen alike.
* `LintPool.EnvironmentChange` — a file that counts appears, vanishes or is touched, or a nearer
  manifest appears.

## Main results

* `LintPool.flatMap_material_inj` — the bytes tell the paths and the stamps.
* `LintPool.environmentKey_tells_changes` — two trees give the same bytes just if the environment is
  the same, and then only the same fingerprint.
-/

namespace LintPool

/-! ## Entries -/

/-- A stamp is a word or a number. -/
lemma Stamp.toList_text (s : Stamp) : s.text.toList =
    match s with
    | .missing => "missing".toList
    | .unreadable => "unreadable".toList
    | .modified nanos => Nat.toDigits 10 nanos := by
  cases s with
  | missing => rfl
  | unreadable => rfl
  | modified nanos => exact String.toList_ofList

/-- The characters of a stamp are letters and digits. -/
lemma Stamp.isAlphanum_of_mem_text {s : Stamp} {c : Char} (h : c ∈ s.text.toList) :
    c.isAlphanum = true := by
  rw [toList_text] at h
  have hword : ∀ word : String, word.toList.all Char.isAlphanum = true → c ∈ word.toList →
      c.isAlphanum = true := fun word hall hc => List.all_eq_true.1 hall c hc
  cases s with
  | missing => exact hword _ (by decide) h
  | unreadable => exact hword _ (by decide) h
  | modified nanos =>
    have hdigit := Nat.isDigit_of_mem_toDigits (by decide) (by decide) h
    simp [Char.isAlphanum, hdigit]

/-- Stamps that are worded alike are the same. -/
lemma Stamp.text_injective : Function.Injective Stamp.text := by
  have hletter : ∀ (word : String) (c : Char) (nanos : Nat), word.toList.head? = some c →
      c.isDigit = false → word.toList ≠ Nat.toDigits 10 nanos := by
    intro word c nanos hhead hc h
    rw [h] at hhead
    have := Nat.isDigit_of_mem_toDigits (by decide) (by decide) (List.mem_of_head? hhead)
    rw [hc] at this
    cases this
  intro s s' h
  replace h : s.text.toList = s'.text.toList := congrArg _ h
  rw [toList_text, toList_text] at h
  cases s with
  | missing =>
    cases s' with
    | missing => rfl
    | unreadable => exact absurd h (by decide)
    | modified nanos => exact absurd h (hletter _ 'm' _ rfl rfl)
  | unreadable =>
    cases s' with
    | missing => exact absurd h (by decide)
    | unreadable => rfl
    | modified nanos => exact absurd h (hletter _ 'u' _ rfl rfl)
  | modified nanos =>
    cases s' with
    | missing => exact absurd h.symm (hletter _ 'm' _ rfl rfl)
    | unreadable => exact absurd h.symm (hletter _ 'u' _ rfl rfl)
    | modified nanos' =>
      have hread := congrArg (Nat.ofDigitChars 10 · 0) h
      simp only [Nat.ofDigitChars_ten_toDigits] at hread
      rw [hread]

/-- What a byte ends that does not stand in it can be read off the front. -/
lemma ended_inj {stop : UInt8} {a a' rest rest' : Bytes} (ha : stop ∉ a) (ha' : stop ∉ a')
    (h : a ++ stop :: rest = a' ++ stop :: rest') : a = a' ∧ rest = rest' := by
  induction a generalizing a' with
  | nil =>
    cases a' with
    | nil => exact ⟨rfl, List.tail_eq_of_cons_eq h⟩
    | cons b' a' => exact absurd (List.head_eq_of_cons_eq h) (List.ne_of_not_mem_cons ha')
  | cons b a ih =>
    cases a' with
    | nil => exact absurd (List.head_eq_of_cons_eq h).symm (List.ne_of_not_mem_cons ha)
    | cons b' a' =>
      rw [List.cons_append, List.cons_append] at h
      obtain ⟨hb, htail⟩ := List.cons.inj h
      obtain ⟨rfl, hrest⟩ :=
        ih (List.not_mem_of_not_mem_cons ha) (List.not_mem_of_not_mem_cons ha') htail
      exact ⟨congrArg (· :: a) hb, hrest⟩

variable {t t' : FileTree}

/-- An entry can be read off the front of the bytes. -/
lemma material_append_inj {p p' : Path} (hp : p.NulFree) (hp' : p'.NulFree) {rest rest' : Bytes}
    (h : material t p ++ rest = material t' p' ++ rest') :
    p = p' ∧ stamp t p = stamp t' p' ∧ rest = rest' := by
  have hnul : ∀ {p : Path}, p.NulFree → 0x00 ∉ Text.encode p.text := fun hp =>
    Text.notMem_spell_of_lt (by decide) hp
  have hfeed : ∀ s : Stamp, 0x0A ∉ Text.encode s.text := by
    intro s
    have hchars : '\n' ∉ s.text.toList := fun hc =>
      absurd (Stamp.isAlphanum_of_mem_text hc) (by decide)
    exact Text.notMem_spell_of_lt (by decide) hchars
  simp only [material, List.append_assoc, List.cons_append, List.nil_append] at h
  obtain ⟨hpath, h⟩ := ended_inj (hnul hp) (hnul hp') h
  obtain ⟨hstamp, h⟩ := ended_inj (hfeed _) (hfeed _) h
  have htext : p.text = p'.text := Text.encode_injective hpath
  exact ⟨congrArg Path.mk htext, Stamp.text_injective (Text.encode_injective hstamp), h⟩

/-- **The bytes tell the paths and the stamps.** -/
theorem flatMap_material_inj {ps qs : List Path} (hps : ∀ p ∈ ps, p.NulFree)
    (hqs : ∀ q ∈ qs, q.NulFree) :
    ps.flatMap (material t) = qs.flatMap (material t') ↔
      ps = qs ∧ ∀ p ∈ ps, stamp t p = stamp t' p := by
  have hne : ∀ (t : FileTree) (p : Path) (rest : Bytes), material t p ++ rest ≠ [] := by
    intro t p rest
    simp [material]
  constructor
  · intro h
    induction ps generalizing qs with
    | nil =>
      cases qs with
      | nil => simp
      | cons q qs => exact absurd h.symm (hne t' q _)
    | cons p ps ih =>
      cases qs with
      | nil => exact absurd h (hne t p _)
      | cons q qs =>
        rw [List.forall_mem_cons] at hps hqs
        rw [List.flatMap_cons, List.flatMap_cons] at h
        obtain ⟨rfl, hstamp, h⟩ := material_append_inj hps.1 hqs.1 h
        obtain ⟨rfl, hstamps⟩ := ih hps.2 hqs.2 h
        exact ⟨rfl, List.forall_mem_cons.2 ⟨hstamp, hstamps⟩⟩
  · rintro ⟨rfl, hstamps⟩
    refine List.flatMap_congr fun p hp => ?_
    rw [material, material, hstamps p hp]

/-! ## Stamps -/

/-- The time of a file or folder. -/
def Node.modified? : Node → Option Timestamp
  | .file _ time _ | .folder time _ => some time
  | .link _ => none

namespace FileTree

/-- There is nothing at a path. -/
def Lacks (t : FileTree) (p : Path) : Prop :=
  ∃ e, t.inspect p = .error e ∧ e.isAbsence = true

/-- A file or folder with a time is at a path. -/
def ModifiedAt (t : FileTree) (p : Path) (time : Timestamp) : Prop :=
  ∃ n, t.inspect p = .ok n ∧ n.modified? = some time

/-- A path cannot be looked at, or what is there has a time before 1970. -/
def Unreadable (t : FileTree) (p : Path) : Prop :=
  (∃ e, t.inspect p = .error e ∧ e.isAbsence = false) ∨ ∃ time, t.ModifiedAt p time ∧ time < 0

/-- What is at a path is missing, has a time, or cannot be looked at. -/
lemma seen (t : FileTree) (p : Path) :
    t.Lacks p ∨ (∃ time, t.ModifiedAt p time) ∨
      ∃ e, t.inspect p = .error e ∧ e.isAbsence = false := by
  rcases hlook : t.inspect p with e | n
  · cases habsent : e.isAbsence with
    | true => exact .inl ⟨e, hlook, habsent⟩
    | false => exact .inr (.inr ⟨e, rfl, habsent⟩)
  · cases n with
    | file content time executable => exact .inr (.inl ⟨time, _, hlook, rfl⟩)
    | folder time entries => exact .inr (.inl ⟨time, _, hlook, rfl⟩)
    | link target => exact absurd hlook (t.inspect_ne_link p target)

end FileTree

/-- A file that is not there has the stamp of a missing one. -/
lemma stamp_eq_of_lacks {p : Path} (h : t.Lacks p) : stamp t p = .missing := by
  obtain ⟨e, hlook, habsent⟩ := h
  simp [stamp, hlook, habsent]

/-- A file or folder has the stamp of its time. -/
lemma stamp_eq_of_modifiedAt {p : Path} {time : Timestamp} (h : t.ModifiedAt p time) :
    stamp t p = .ofTime time := by
  obtain ⟨n, hlook, htime⟩ := h
  cases n with
  | link => cases htime
  | file =>
    cases htime
    simp [stamp, hlook, Stamp.ofNode]
  | folder =>
    cases htime
    simp [stamp, hlook, Stamp.ofNode]

/-- What cannot be looked at, or is too old, has the stamp of what cannot be read. -/
lemma stamp_eq_of_unreadable {p : Path} (h : t.Unreadable p) : stamp t p = .unreadable := by
  rcases h with ⟨e, hlook, hpresent⟩ | ⟨time, hmodified, hearly⟩
  · simp [stamp, hlook, hpresent]
  · rw [stamp_eq_of_modifiedAt hmodified, Stamp.ofTime, if_pos hearly]

/-- A file is seen alike in two trees. -/
inductive SeenAlike (t t' : FileTree) (p : Path) : Prop where
  /-- It is missing in both. -/
  | missing (before : t.Lacks p) (after : t'.Lacks p)
  /-- It is in both, with the same time. -/
  | modified (time : Timestamp) (before : t.ModifiedAt p time) (after : t'.ModifiedAt p time)
  /-- It is unreadable in both. -/
  | unreadable (before : t.Unreadable p) (after : t'.Unreadable p)

/-- Stamps from 1970 on tell the times. -/
lemma Stamp.ofTime_inj {time time' : Timestamp} (h : 0 ≤ time) :
    Stamp.ofTime time = Stamp.ofTime time' ↔ time = time' := by
  unfold ofTime
  constructor
  · intro heq
    rw [if_neg (Int.not_lt.2 h)] at heq
    split_ifs at heq with hearly
    have hnanos : time.toNat = time'.toNat := Stamp.modified.inj heq
    have hnow : 0 ≤ time' := Int.not_lt.1 hearly
    rw [← Int.toNat_of_nonneg h, hnanos, Int.toNat_of_nonneg hnow]
  · rintro rfl
    rfl

/-- A file has the same stamp in two trees just if it is seen alike. -/
lemma stamp_eq_iff {p : Path} : stamp t p = stamp t' p ↔ SeenAlike t t' p := by
  constructor
  · intro h
    -- a time counts as a time or as unreadable
    have hkinds : ∀ t : FileTree, t.Lacks p ∨ (∃ time, 0 ≤ time ∧ t.ModifiedAt p time) ∨
        t.Unreadable p := by
      intro t
      rcases t.seen p with hlacks | ⟨time, hmodified⟩ | hfails
      · exact .inl hlacks
      · by_cases hearly : time < 0
        · exact .inr (.inr (.inr ⟨time, hmodified, hearly⟩))
        · exact .inr (.inl ⟨time, Int.not_lt.1 hearly, hmodified⟩)
      · exact .inr (.inr (.inl hfails))
    have hofTime : ∀ {time : Timestamp}, 0 ≤ time → Stamp.ofTime time = .modified time.toNat :=
      fun htime => if_neg (Int.not_lt.2 htime)
    rcases hkinds t with hb | ⟨time, hnow, hb⟩ | hb <;>
      rcases hkinds t' with ha | ⟨time', hnow', ha⟩ | ha
    · exact .missing hb ha
    · rw [stamp_eq_of_lacks hb, stamp_eq_of_modifiedAt ha, hofTime hnow'] at h
      cases h
    · rw [stamp_eq_of_lacks hb, stamp_eq_of_unreadable ha] at h
      cases h
    · rw [stamp_eq_of_lacks ha, stamp_eq_of_modifiedAt hb, hofTime hnow] at h
      cases h
    · rw [stamp_eq_of_modifiedAt hb, stamp_eq_of_modifiedAt ha, Stamp.ofTime_inj hnow] at h
      exact .modified time hb (h ▸ ha)
    · rw [stamp_eq_of_modifiedAt hb, stamp_eq_of_unreadable ha, hofTime hnow] at h
      cases h
    · rw [stamp_eq_of_unreadable hb, stamp_eq_of_lacks ha] at h
      cases h
    · rw [stamp_eq_of_unreadable hb, stamp_eq_of_modifiedAt ha, hofTime hnow'] at h
      cases h
    · exact .unreadable hb ha
  · rintro (⟨hb, ha⟩ | ⟨time, hb, ha⟩ | ⟨hb, ha⟩)
    · rw [stamp_eq_of_lacks hb, stamp_eq_of_lacks ha]
    · rw [stamp_eq_of_modifiedAt hb, stamp_eq_of_modifiedAt ha]
    · rw [stamp_eq_of_unreadable hb, stamp_eq_of_unreadable ha]

/-! ## The files that count -/

/-- What a search finds is a file. -/
lemma isFile_of_found {probe : Probe} {ps : List Path} {s : UpwardSearch} {p : Path}
    (h : searchAlong probe ps = .ok s) (hfound : s.found = some p) : probe p = .ok true := by
  induction ps generalizing s with
  | nil =>
    cases h
    cases hfound
  | cons q ps ih =>
    rw [searchAlong] at h
    rcases hlook : probe q with e | _ | _ <;> simp only [hlook] at h
    · cases h
    · rcases hfurther : searchAlong probe ps with e | t <;> simp only [hfurther] at h
      · cases h
      · cases h
        exact ih hfurther hfound
    · cases h
      cases hfound
      exact hlook

/-- A search ends at the first file, if it can look at all that comes before. -/
lemma searchAlong_append {probe : Probe} {before : List Path} {p : Path} (after : List Path)
    (hbefore : ∀ q ∈ before, probe q = .ok false) (hp : probe p = .ok true) :
    searchAlong probe (before ++ p :: after) = .ok ⟨some p, before ++ [p]⟩ := by
  induction before with
  | nil => simp [searchAlong, hp]
  | cons q before ih =>
    rw [List.forall_mem_cons] at hbefore
    simp [searchAlong, hbefore.1, ih hbefore.2]

section

variable {probe probe' : Probe} {ws root : Path} {entry : Option Path}

/-- The manifest of a linter is a file beside or above its entry point. -/
lemma of_linterManifest? {start p : Path} (h : linterManifest? probe start = some p) :
    p ∈ candidates start [manifestName] ∧ probe p = .ok true := by
  unfold linterManifest? findPackageRoot findUpward at h
  rcases hs : searchAlong probe (candidates start [manifestName]) with e | s <;> rw [hs] at h
  · cases h
  · exact ⟨mem_of_found hs h, isFile_of_found hs h⟩

/-- The files that count are the same in two trees just if the manifest of the linter is. -/
lemma environmentInputs_eq_iff :
    environmentInputs probe ws root entry = environmentInputs probe' ws root entry ↔
      ∀ given ∈ entry, linterManifest? probe (given.seenFrom ws) =
        linterManifest? probe' (given.seenFrom ws) := by
  have htoList : ∀ a b : Option Path, a.toList = b.toList → a = b := by
    intro a b h
    cases a <;> cases b <;> simp_all
  unfold environmentInputs
  rw [List.append_right_inj]
  cases entry with
  | none => simp [linterInputs]
  | some given =>
    simp only [linterInputs, List.append_left_inj, Option.mem_some_iff, forall_eq']
    exact ⟨htoList _ _, congrArg _⟩

/-- The files that count have no NUL in their paths if what they come from has none. -/
lemma nulFree_of_mem_environmentInputs (hws : ws.NulFree) (hroot : root.NulFree)
    (hentry : ∀ given ∈ entry, given.NulFree) {p : Path}
    (h : p ∈ environmentInputs probe ws root entry) : p.NulFree := by
  have hfolder : ∀ {folder : Path}, folder.NulFree → p ∈ folderInputs folder → p.NulFree := by
    intro folder hfree h
    obtain ⟨name, hname, rfl⟩ := List.mem_map.1 h
    have hnames : ∀ name ∈ manifestName :: installStateNames, (⟨name⟩ : Path).NulFree := by decide
    exact hfree.join (hnames name hname)
  unfold environmentInputs at h
  rcases List.mem_append.1 h with h | h
  · rcases List.mem_append.1 h with h | h
    · exact hfolder hroot h
    · split_ifs at h
      · cases h
      · exact hfolder hws h
  · cases entry with
    | none => cases h
    | some given =>
      have hgiven : (given.seenFrom ws).NulFree := (hentry given rfl).seenFrom hws
      rcases List.mem_append.1 h with h | h
      · have hmanifest := of_linterManifest? (Option.mem_toList.1 h)
        exact hgiven.candidates (by decide) hmanifest.1
      · cases List.mem_singleton.1 h
        exact hgiven

end

/-! ## The same environment -/

/-- The environment of a worker is the same in two trees: the search for the manifest of its linter
ends alike, and every file that counts is seen alike. -/
structure SameEnvironment (t t' : FileTree) (ws root : Path) (entry : Option Path) : Prop where
  /-- The search for the manifest ends at the same file, or at none. -/
  manifest : ∀ given ∈ entry, linterManifest? t.isFile (given.seenFrom ws) =
    linterManifest? t'.isFile (given.seenFrom ws)
  /-- The files are seen alike. -/
  files : ∀ p ∈ environmentInputs t.isFile ws root entry, SeenAlike t t' p

/-- A change, from one tree to another, of what a worker would load. -/
inductive EnvironmentChange (t t' : FileTree) (ws root : Path) (entry : Option Path) : Prop where
  /-- A file that counts is made. -/
  | created {p : Path} (counts : p ∈ environmentInputs t.isFile ws root entry) (before : t.Lacks p)
    (after : ¬ t'.Lacks p)
  /-- A file that counts is taken away. -/
  | deleted {p : Path} (counts : p ∈ environmentInputs t.isFile ws root entry)
    (before : ¬ t.Lacks p) (after : t'.Lacks p)
  /-- A file that counts gets another time, from 1970 on. -/
  | touched {p : Path} {time time' : Timestamp}
    (counts : p ∈ environmentInputs t.isFile ws root entry) (before : t.ModifiedAt p time)
    (after : t'.ModifiedAt p time') (now : 0 ≤ time') (other : time ≠ time')
  /-- A manifest is made at a path that the search for the linter's manifest comes to. -/
  | nearerManifest {given p : Path} {nearer farther : List Path} (isEntry : given ∈ entry)
    (splits : candidates (given.seenFrom ws) [manifestName] = nearer ++ p :: farther)
    (passed : ∀ q ∈ nearer, t'.isFile q = .ok false) (before : t.isFile p ≠ .ok true)
    (after : t'.isFile p = .ok true)

/-- What has changed is not the same. -/
lemma EnvironmentChange.not_same {ws root : Path} {entry : Option Path}
    (h : EnvironmentChange t t' ws root entry) : ¬ SameEnvironment t t' ws root entry := by
  have hlacks : ∀ (t : FileTree) (p : Path), stamp t p = .missing → t.Lacks p := by
    intro t p hstamp
    rcases t.seen p with hlacks | ⟨time, hmodified⟩ | hfails
    · exact hlacks
    · rw [stamp_eq_of_modifiedAt hmodified, Stamp.ofTime] at hstamp
      split_ifs at hstamp
    · rw [stamp_eq_of_unreadable (.inl hfails)] at hstamp
      cases hstamp
  intro hsame
  cases h with
  | created counts before after =>
    have hstamp := stamp_eq_iff.2 (hsame.files _ counts)
    rw [stamp_eq_of_lacks before] at hstamp
    exact after (hlacks _ _ hstamp.symm)
  | deleted counts before after =>
    have hstamp := stamp_eq_iff.2 (hsame.files _ counts)
    rw [stamp_eq_of_lacks after] at hstamp
    exact before (hlacks _ _ hstamp)
  | touched counts before after now other =>
    have hstamp := stamp_eq_iff.2 (hsame.files _ counts)
    rw [stamp_eq_of_modifiedAt before, stamp_eq_of_modifiedAt after] at hstamp
    exact other ((Stamp.ofTime_inj now).1 hstamp.symm).symm
  | @nearerManifest given p nearer farther isEntry splits passed before after =>
    have hfound : linterManifest? t'.isFile (given.seenFrom ws) = some p := by
      rw [linterManifest?, findPackageRoot, findUpward, splits, searchAlong_append _ passed after]
    have hbefore := (hsame.manifest given isEntry).trans hfound
    exact before (of_linterManifest? hbefore).2

/-- Two byte strings do not collide: they have different digests unless they are the same. -/
def NoCollision (a b : Bytes) : Prop :=
  Sha256.digest a = Sha256.digest b → a = b

/-- **The fingerprint misses no change.** Two trees give the same bytes just if the environment is
the same in both, and then the same fingerprint, whatever else has changed. If the two byte strings
do not collide, any change of the environment changes the fingerprint. -/
theorem environmentKey_tells_changes {ws root : Path} {entry : Option Path} (hws : ws.NulFree)
    (hroot : root.NulFree) (hentry : ∀ given ∈ entry, given.NulFree) :
    (environmentMaterial t ws root entry = environmentMaterial t' ws root entry ↔
      SameEnvironment t t' ws root entry) ∧
    (SameEnvironment t t' ws root entry →
      environmentKey t ws root entry = environmentKey t' ws root entry) ∧
    (NoCollision (environmentMaterial t ws root entry) (environmentMaterial t' ws root entry) →
      (environmentKey t ws root entry = environmentKey t' ws root entry ↔
        SameEnvironment t t' ws root entry) ∧
      (EnvironmentChange t t' ws root entry →
        environmentKey t ws root entry ≠ environmentKey t' ws root entry)) := by
  have hmaterial : environmentMaterial t ws root entry = environmentMaterial t' ws root entry ↔
      SameEnvironment t t' ws root entry := by
    have hfree : ∀ (probe : Probe), ∀ p ∈ environmentInputs probe ws root entry, p.NulFree :=
      fun probe p hp => nulFree_of_mem_environmentInputs hws hroot hentry hp
    unfold environmentMaterial
    rw [flatMap_material_inj (hfree _) (hfree _), environmentInputs_eq_iff]
    simp only [stamp_eq_iff]
    exact ⟨fun ⟨hmanifest, hfiles⟩ => ⟨hmanifest, hfiles⟩,
      fun ⟨hmanifest, hfiles⟩ => ⟨hmanifest, hfiles⟩⟩
  have hkey : SameEnvironment t t' ws root entry →
      environmentKey t ws root entry = environmentKey t' ws root entry := by
    intro hsame
    rw [environmentKey, environmentKey, hmaterial.2 hsame]
  refine ⟨hmaterial, hkey, fun hno => ⟨⟨fun hkeys => ?_, hkey⟩, fun hchange hkeys => ?_⟩⟩
  · exact hmaterial.1 (hno hkeys)
  · exact hchange.not_same (hmaterial.1 (hno hkeys))

/-- The bytes in a tree without links. -/
lemma environmentMaterial_eq_of_linkFree (ht : t.LinkFree) (ws root : Path)
    (entry : Option Path) : environmentMaterial t ws root entry =
      (environmentInputs t.isFileDown ws root entry).flatMap fun p =>
        Text.encode p.text ++ 0x00 :: (Text.encode (match t.inspectDown p with
          | .ok n => Stamp.ofNode n
          | .error e => if e.isAbsence then .missing else .unreadable).text ++ [0x0A]) := by
  rw [environmentMaterial, FileTree.isFile_eq_isFileDown ht]
  refine List.flatMap_congr fun p _ => ?_
  cases hlook : t.inspectDown p <;>
    simp [material, stamp, FileTree.inspect_eq_inspectDown ht, hlook]

/-- A tree with a manifest at its root, and a folder with a linter that has a manifest of its own or
none. -/
def linterTree (own : Bool) : FileTree where
  root := .folder 0
    [ ("package.json".toList, .file [] 1 false),
      ("l".toList, .folder 1 (if own then [("package.json".toList, .file [] 1 false)] else [])) ]
  current := []

/-- There are no links in that tree. -/
lemma linterTree_linkFree (own : Bool) : (linterTree own).LinkFree := by
  refine Node.linkFree_folder ?_
  simp only [List.forall_mem_cons, List.not_mem_nil, false_implies, implies_true, and_true]
  refine ⟨Node.linkFree_file _ _ _, Node.linkFree_folder ?_⟩
  cases own with
  | true => simp [Node.linkFree_file]
  | false => simp

/-- A manifest beside the linter changes the fingerprint. -/
theorem environmentKey_tells_changes_nearer :
    NoCollision (environmentMaterial (linterTree false) ⟨"/"⟩ ⟨"/"⟩ (some ⟨"/l"⟩))
      (environmentMaterial (linterTree true) ⟨"/"⟩ ⟨"/"⟩ (some ⟨"/l"⟩)) ∧
    EnvironmentChange (linterTree false) (linterTree true) ⟨"/"⟩ ⟨"/"⟩ (some ⟨"/l"⟩) ∧
    environmentKey (linterTree false) ⟨"/"⟩ ⟨"/"⟩ (some ⟨"/l"⟩) ≠
      environmentKey (linterTree true) ⟨"/"⟩ ⟨"/"⟩ (some ⟨"/l"⟩) := by
  have hdigests : Sha256.digest (environmentMaterial (linterTree false) ⟨"/"⟩ ⟨"/"⟩ (some ⟨"/l"⟩)) ≠
      Sha256.digest (environmentMaterial (linterTree true) ⟨"/"⟩ ⟨"/"⟩ (some ⟨"/l"⟩)) := by
    rw [environmentMaterial_eq_of_linkFree (linterTree_linkFree _),
      environmentMaterial_eq_of_linkFree (linterTree_linkFree _)]
    decide +kernel
  have hno : NoCollision (environmentMaterial (linterTree false) ⟨"/"⟩ ⟨"/"⟩ (some ⟨"/l"⟩))
      (environmentMaterial (linterTree true) ⟨"/"⟩ ⟨"/"⟩ (some ⟨"/l"⟩)) :=
    fun h => absurd h hdigests
  have hchange : EnvironmentChange (linterTree false) (linterTree true) ⟨"/"⟩ ⟨"/"⟩
      (some ⟨"/l"⟩) := by
    have hsplits : candidates ((⟨"/l"⟩ : Path).seenFrom ⟨"/"⟩) [manifestName] =
        [] ++ ⟨"/l/package.json"⟩ :: [⟨"/package.json"⟩] := by decide +kernel
    refine .nearerManifest rfl hsplits (by simp) ?_ ?_
    · rw [FileTree.isFile_eq_isFileDown (linterTree_linkFree _)]
      decide +kernel
    · rw [FileTree.isFile_eq_isFileDown (linterTree_linkFree _)]
      decide +kernel
  exact ⟨hno, hchange, ((environmentKey_tells_changes (by decide) (by decide) (by decide)).2.2
    hno).2 hchange⟩

end LintPool
