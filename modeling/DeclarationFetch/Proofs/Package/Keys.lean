import DeclarationFetch.Proofs.Cache.Entries
import DeclarationFetch.Proofs.Package.Placement

/-! # What keys of package files tell

The name of a package is a word, or a scope and a word. A key puts the version behind the name, after an at
sign, and the path behind both, after a slash.

* `Word`, `Name`, `Version`: texts that may stand in a key.
* `versioned_inj`: the name and the version are read back from where they stand together.
* `packageOf_fileKey`: a cache on disk takes just them for the package part of a key.
* `fileKey_identifies`: a key tells the package, the version and the path.
-/

namespace DeclarationFetch

theorem Text.append_inj_of_mark {mark : Char} {front front' back back' : List Char}
    (hf : mark ∉ front) (hf' : mark ∉ front') (hb : ∀ c ∈ back.head?, c = mark)
    (hb' : ∀ c ∈ back'.head?, c = mark) (h : front ++ back = front' ++ back') :
    front = front' ∧ back = back' := by
  induction front generalizing front' with
  | nil =>
    cases front' with
    | nil => exact ⟨rfl, h⟩
    | cons c front' =>
      have hback : back = c :: (front' ++ back') := h
      exact absurd (hb c (by rw [hback]; rfl) ▸ List.mem_cons_self ..) hf'
  | cons c front ih =>
    cases front' with
    | nil =>
      have hback : back' = c :: (front ++ back) := h.symm
      exact absurd (hb' c (by rw [hback]; rfl) ▸ List.mem_cons_self ..) hf
    | cons c' front' =>
      obtain ⟨rfl, htail⟩ := List.cons.inj h
      obtain ⟨rfl, rfl⟩ := ih (fun hm => hf (List.mem_cons_of_mem _ hm))
        (fun hm => hf' (List.mem_cons_of_mem _ hm)) htail
      exact ⟨rfl, rfl⟩

namespace DiskCache

open DeclarationFetch.Path

/-- What stands before a slash is the package part if it has the parts that its first character asks for. -/
theorem packageOf_of_parts {key package : String} {rest : List Char}
    (hkey : key.toList = package.toList ++ '/' :: rest) (hne : package.toList ≠ [])
    (hparts : (parts package.toList).length = if package.toList.head? = some '@' then 2 else 1) :
    packageOf key = package := by
  obtain ⟨c, tail, hc⟩ := List.exists_cons_of_ne_nil hne
  have hmore : 0 < (parts rest).length := List.length_pos_iff.mpr (parts_ne_nil rest)
  have hhead : key.toList.head? = package.toList.head? := by
    rw [hkey, hc]
    rfl
  have htake : (if (decide (package.toList.head? = some '@') &&
      decide (1 < (parts package.toList ++ parts rest).length)) = true then 2 else 1) =
        (parts package.toList).length := by
    rw [List.length_append]
    by_cases hat : package.toList.head? = some '@'
    · rw [if_pos hat] at hparts
      rw [hparts, if_pos]
      simp only [hat, decide_true, Bool.true_and, decide_eq_true_eq]
      omega
    · rw [if_neg hat] at hparts
      rw [hparts, if_neg]
      simp [hat]
  unfold packageOf
  dsimp only
  rw [hhead, hkey, parts_append_slash, htake, List.take_left, unparts_parts, String.ofList_toList]

/-- Keys with one package part have their entries in one directory. -/
theorem exists_home (c : DiskCache) (package : String) :
    ∃ home : Route, ∀ key, packageOf key = package → c.entry key = home ++ [fileName key] := by
  refine ⟨c.directory ++ Location.namesOf
    (String.ofList (package.toList.map fun c => if isPlain c then c else '+')), fun key hkey => ?_⟩
  rw [entry, entryRoute, directoryName, hkey, List.append_assoc]
  rfl

end DiskCache

namespace Package

open DeclarationFetch.Path

/-! ## Names and versions -/

/-- A text between the marks of a name. -/
@[ext] structure Word where
  text : String
  ne_empty : text ≠ ""
  no_slash : '/' ∉ text.toList
  no_at : '@' ∉ text.toList

@[ext] structure Version where
  text : String
  ne_empty : text ≠ ""
  no_slash : '/' ∉ text.toList

/-- The name of a package, in no scope or in one. -/
inductive Name where
  | plain (word : Word)
  | within (outer word : Word)

namespace Name

def text : Name → String
  | plain word => word.text
  | within outer word => "@" ++ outer.text ++ "/" ++ word.text

def withVersion (name : Name) : Option Version → String
  | none => name.text
  | some version => name.text ++ "@" ++ version.text

end Name

def mark : Option Version → List Char
  | none => []
  | some version => '@' :: version.text.toList

variable {name name' : Name} {version version' : Option Version}

theorem versioned_eq (name : Name) (version : Option Version) :
    versioned name.text (version.map Version.text) = name.withVersion version := by
  cases version with
  | none => rfl
  | some v => exact if_neg v.ne_empty

theorem toList_withVersion (name : Name) (version : Option Version) :
    (name.withVersion version).toList = name.text.toList ++ mark version := by
  cases version with
  | none => exact (List.append_nil _).symm
  | some v =>
    show (name.text ++ "@" ++ v.text).toList = _
    rw [String.toList_append, String.toList_append, List.append_assoc]
    rfl

theorem toList_within (outer word : Word) :
    (Name.within outer word).text.toList = '@' :: (outer.text.toList ++ '/' :: word.text.toList) := by
  show ("@" ++ outer.text ++ "/" ++ word.text).toList = _
  simp only [String.toList_append, List.append_assoc]
  rfl

theorem head_mark : ∀ c ∈ (mark version).head?, c = '@' := by
  intro c hc
  cases version with
  | none => cases hc
  | some v =>
    cases hc
    rfl

theorem slash_not_mem_mark : '/' ∉ mark version := by
  cases version with
  | none => exact List.not_mem_nil
  | some v =>
    intro h
    rcases List.mem_cons.mp h with h | h
    · exact absurd h (by decide)
    · exact v.no_slash h

theorem mark_inj (h : mark version = mark version') : version = version' := by
  match version, version', h with
  | none, none, _ => rfl
  | some v, some v', h =>
    have htext : v.text.toList = v'.text.toList := (List.cons.inj h).2
    exact congrArg some (Version.ext (String.toList_inj.mp htext))

theorem Word.exists_cons (word : Word) : ∃ c rest, word.text.toList = c :: rest ∧ c ≠ '@' := by
  obtain ⟨c, rest, hc⟩ := List.exists_cons_of_ne_nil fun hn => word.ne_empty (String.toList_eq_nil_iff.mp hn)
  exact ⟨c, rest, hc, fun hat => word.no_at (by rw [hc, hat]; exact List.mem_cons_self ..)⟩

/-- A word and a version are told apart by the first at sign. -/
theorem word_mark_inj {word word' : Word}
    (h : word.text.toList ++ mark version = word'.text.toList ++ mark version') :
    word = word' ∧ version = version' := by
  obtain ⟨htext, hmark⟩ := Text.append_inj_of_mark word.no_at word'.no_at head_mark head_mark h
  exact ⟨Word.ext (String.toList_inj.mp htext), mark_inj hmark⟩

theorem withVersion_inj (h : name.withVersion version = name'.withVersion version') :
    name = name' ∧ version = version' := by
  -- a name begins with an at sign just when it is in a scope
  have hapart : ∀ {word outer word' : Word} {m m' : List Char},
      word.text.toList ++ m ≠ '@' :: (outer.text.toList ++ '/' :: word'.text.toList) ++ m' := by
    intro word outer word' m m' heq
    obtain ⟨c, rest, hc, hat⟩ := word.exists_cons
    rw [hc] at heq
    exact hat (List.cons.inj heq).1
  rw [← String.toList_inj, toList_withVersion, toList_withVersion] at h
  match name, name', h with
  | .plain word, .plain word', h =>
    obtain ⟨rfl, rfl⟩ := word_mark_inj h
    exact ⟨rfl, rfl⟩
  | .plain word, .within outer word', h => exact absurd (toList_within outer word' ▸ h) hapart
  | .within outer word, .plain word', h => exact absurd (toList_within outer word ▸ h).symm hapart
  | .within outer word, .within outer' word', h =>
    rw [toList_within, toList_within, List.cons_append, List.cons_append, List.append_assoc,
      List.append_assoc, List.cons_append, List.cons_append] at h
    obtain ⟨houter, hrest⟩ := Text.append_inj_of_mark outer.no_slash outer'.no_slash
      (by simp) (by simp) (List.cons.inj h).2
    obtain ⟨rfl, rfl⟩ := word_mark_inj (List.cons.inj hrest).2
    exact ⟨by rw [Word.ext (String.toList_inj.mp houter)], rfl⟩

/-! ## The package part of a key -/

theorem toList_key (name : Name) (version : Option Version) (path : String) :
    (fileKey name.text (version.map Version.text) path).toList =
      (name.withVersion version).toList ++ '/' :: path.toList := by
  rw [toList_fileKey, versioned_eq]

theorem slash_not_mem_word_mark (word : Word) (version : Option Version) :
    '/' ∉ word.text.toList ++ mark version := fun h =>
  (List.mem_append.mp h).elim word.no_slash slash_not_mem_mark

theorem parts_plain (word : Word) (version : Option Version) :
    parts ((Name.plain word).withVersion version).toList = [word.text.toList ++ mark version] := by
  rw [toList_withVersion]
  exact parts_of_not_mem (slash_not_mem_word_mark word version)

theorem parts_within (outer word : Word) (version : Option Version) :
    parts ((Name.within outer word).withVersion version).toList =
      ['@' :: outer.text.toList, word.text.toList ++ mark version] := by
  have houter : '/' ∉ '@' :: outer.text.toList := fun h =>
    (List.mem_cons.mp h).elim (fun h => absurd h (by decide)) outer.no_slash
  rw [toList_withVersion, toList_within, List.cons_append, List.append_assoc, List.cons_append,
    ← List.cons_append, parts_append_slash, parts_of_not_mem houter,
    parts_of_not_mem (slash_not_mem_word_mark word version)]
  rfl

theorem head_withVersion (name : Name) (version : Option Version) :
    (name.withVersion version).toList.head? = some '@' ↔ ∃ outer word, name = .within outer word := by
  rw [toList_withVersion]
  cases name with
  | plain word =>
    obtain ⟨c, rest, hc, hat⟩ := word.exists_cons
    refine iff_of_false ?_ (by rintro ⟨_, _, h⟩; cases h)
    show (word.text.toList ++ mark version).head? ≠ _
    rw [hc]
    exact fun h => hat (Option.some.inj h)
  | within outer word =>
    rw [toList_within]
    exact iff_of_true rfl ⟨outer, word, rfl⟩

theorem length_parts_withVersion (name : Name) (version : Option Version) :
    (parts (name.withVersion version).toList).length =
      if (name.withVersion version).toList.head? = some '@' then 2 else 1 := by
  cases name with
  | plain word =>
    have hhead : ((Name.plain word).withVersion version).toList.head? ≠ some '@' := fun h => by
      obtain ⟨_, _, h⟩ := (head_withVersion _ _).mp h
      cases h
    rw [parts_plain, if_neg hhead]
    rfl
  | within outer word =>
    rw [parts_within, if_pos ((head_withVersion _ _).mpr ⟨outer, word, rfl⟩)]
    rfl

theorem packageOf_fileKey (name : Name) (version : Option Version) (path : String) :
    DiskCache.packageOf (fileKey name.text (version.map Version.text) path) = name.withVersion version := by
  have hne : (name.withVersion version).toList ≠ [] := by
    rw [toList_withVersion]
    cases name with
    | plain word =>
      obtain ⟨c, rest, hc, -⟩ := word.exists_cons
      exact List.append_ne_nil_of_left_ne_nil (hc ▸ List.cons_ne_nil c rest) _
    | within outer word =>
      rw [toList_within]
      exact List.cons_ne_nil _ _
  exact DiskCache.packageOf_of_parts (toList_key name version path) hne (length_parts_withVersion name version)

/-! ## Keys that are equal -/

theorem fileKey_eq_iff (path path' : String) :
    fileKey name.text (version.map Version.text) path = fileKey name'.text (version'.map Version.text) path' ↔
      name = name' ∧ version = version' ∧ path = path' := by
  refine ⟨fun h => ?_, ?_⟩
  · -- the package parts are equal, and so is what stands behind them
    have hpackage : name.withVersion version = name'.withVersion version' := by
      rw [← packageOf_fileKey name version path, h, packageOf_fileKey]
    obtain ⟨rfl, rfl⟩ := withVersion_inj hpackage
    rw [← String.toList_inj, toList_key, toList_key, List.append_cancel_left_eq, List.cons.injEq,
      String.toList_inj] at h
    exact ⟨rfl, rfl, h.2⟩
  · rintro ⟨rfl, rfl, rfl⟩
    rfl

/-- A key tells the package, the version and the path, be it the key of a file, of what is imported in a
package or of a package import. A cache on disk takes the name with the version for its package part, so
that the files of one version have their entries in one directory. -/
theorem fileKey_identifies (name name' : Name) (version version' : Option Version) :
    (∀ path path', fileKey name.text (version.map Version.text) path =
        fileKey name'.text (version'.map Version.text) path' ↔
      name = name' ∧ version = version' ∧ path = path') ∧
    (∀ source path source' path',
      (Resource.inPackage name.text source path).key (version.map Version.text) =
          (Resource.inPackage name'.text source' path').key (version'.map Version.text) ↔
        name = name' ∧ version = version' ∧ join [source, path] = join [source', path']) ∧
    (∀ path path', (Resource.package name.text path).key (version.map Version.text) =
        (Resource.package name'.text path').key (version'.map Version.text) ↔
      name = name' ∧ version = version' ∧ path = path') ∧
    (∀ path, DiskCache.packageOf (fileKey name.text (version.map Version.text) path) =
      name.withVersion version) ∧
    ∀ c : DiskCache, ∃ home : Route, ∀ path,
      c.entry (fileKey name.text (version.map Version.text) path) =
        home ++ [DiskCache.fileName (fileKey name.text (version.map Version.text) path)] := by
  refine ⟨fileKey_eq_iff, fun source path source' path' => ?_, fileKey_eq_iff,
    packageOf_fileKey name version, fun c => ?_⟩
  · exact fileKey_eq_iff (join [source, path]) (join [source', path'])
  · obtain ⟨home, hhome⟩ := c.exists_home (name.withVersion version)
    exact ⟨home, fun path => hhome _ (packageOf_fileKey name version path)⟩

/-- An at sign in a name is taken for the mark of a version. -/
example : fileKey "a@1" none "b" = fileKey "a" (some "1") "b" := by decide

end Package

end DeclarationFetch
