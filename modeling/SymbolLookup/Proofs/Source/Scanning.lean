import SymbolLookup.Proofs.Source.Arrangement
/-!
# Scanning a folder

What a folder makes of the files in its directory does not depend on the order in which the
directory tells them.

## Main definitions

* `nameParts`: the name of a file cut before its ending, the ending in lower case.
* `TellsApart`: whether no two files in a directory have the same parts.
* `IsShardFile`: whether a file is one for a bucket.
* `Prefers`: whether a file is the one that is preferred for a bucket.

## Main results

* `Folder.follows_ofListing`: what a folder holds of the files that were scanned.
* `Folder.ofListing_perm`: it holds the same whatever the order.

## Design notes

While a directory is scanned, a script takes the place of a data document and is never replaced by
one. Two scripts of one bucket could take each other's place, and then the last one would be left;
but they would have the same parts.
-/

namespace SymbolLookup

open Text

/-! ## Files of a directory -/

/-- The name of a file cut before its ending, the ending in lower case. -/
def nameParts (name : String) : String × String :=
  ((splitEnding name).1, lower (splitEnding name).2)

/-- Whether no two files in a directory have the same parts. -/
def TellsApart (listing : List (String × Node)) : Prop :=
  ((listing.filter fun file => file.2.isFile).map fun file => nameParts file.1).Nodup

/-- The ending of data files. -/
def dataEnding : String := ".json"

/-- Whether a file in a directory is one for a bucket, with this ending. -/
structure IsShardFile (listing : List (String × Node)) (bucket ending name : String) : Prop where
  listed : ∃ node, (name, node) ∈ listing ∧ node.isFile = true
  other : name ≠ manifestName
  parts : nameParts name = (bucket, ending)
  bucket : ∃ id, BucketId.parse bucket = .ok id

/-- Whether a file is the one that is preferred for a bucket: its script, or its data document if it
has no script. -/
def Prefers (listing : List (String × Node)) (bucket name : String) : Prop :=
  IsShardFile listing bucket scriptEnding name ∨
    (¬∃ script, IsShardFile listing bucket scriptEnding script) ∧
      IsShardFile listing bucket dataEnding name

variable {listing others : List (String × Node)} {bucket ending name : String} {node : Node}

theorem TellsApart.perm (h : TellsApart listing) (hp : listing.Perm others) : TellsApart others :=
  ((hp.filter _).map _).nodup_iff.1 h

/-- A file with a given name has one content. -/
theorem TellsApart.eq_of_parts (h : TellsApart listing) {file other : String × Node}
    (hf : file ∈ listing) (ho : other ∈ listing) (hi : file.2.isFile = true)
    (hj : other.2.isFile = true) (hp : nameParts file.1 = nameParts other.1) : file = other :=
  List.inj_on_of_nodup_map h (List.mem_filter.2 ⟨hf, hi⟩) (List.mem_filter.2 ⟨ho, hj⟩) hp

/-- A bucket has one file with a given ending. -/
theorem TellsApart.eq_of_isShardFile (h : TellsApart listing) {other : String}
    (hn : IsShardFile listing bucket ending name) (ho : IsShardFile listing bucket ending other) :
    name = other := by
  obtain ⟨node, hm, hf⟩ := hn.listed
  obtain ⟨_, hm', hf'⟩ := ho.listed
  exact congrArg Prod.fst (h.eq_of_parts hm hm' hf hf' (hn.parts.trans ho.parts.symm))

theorem IsShardFile.of_subset (h : IsShardFile listing bucket ending name)
    (hs : ∀ file ∈ listing, file ∈ others) : IsShardFile others bucket ending name := by
  obtain ⟨node, hm, hf⟩ := h.listed
  exact ⟨⟨node, hs _ hm, hf⟩, h.other, h.parts, h.bucket⟩

theorem isShardFile_perm (hp : listing.Perm others) :
    IsShardFile listing bucket ending name ↔ IsShardFile others bucket ending name :=
  ⟨fun h => h.of_subset fun _ hm => hp.mem_iff.1 hm,
    fun h => h.of_subset fun _ hm => hp.mem_iff.2 hm⟩

theorem prefers_perm (hp : listing.Perm others) :
    Prefers listing bucket name ↔ Prefers others bucket name := by
  simp only [Prefers, isShardFile_perm hp]

/-- The bucket and the ending of a file that is one for a bucket. -/
def shardParts? (name : String) : Option (String × String) :=
  if name ≠ manifestName ∧ (nameParts name).2 ∈ shardEndings ∧
      (BucketId.parse (nameParts name).1).isOk then
    some (nameParts name)
  else none

theorem shardParts?_eq_some_iff : shardParts? name = some (bucket, ending) ↔
    name ≠ manifestName ∧ nameParts name = (bucket, ending) ∧ ending ∈ shardEndings ∧
      ∃ id, BucketId.parse bucket = .ok id := by
  rw [shardParts?, Option.ite_none_right_eq_some, Option.some_inj, isOk_iff_exists]
  constructor
  · rintro ⟨⟨hn, he, hb⟩, hp⟩
    rw [hp] at he hb
    exact ⟨hn, hp, he, hb⟩
  · rintro ⟨hn, hp, he, hb⟩
    rw [hp]
    exact ⟨⟨hn, he, hb⟩, rfl⟩

/-- What the files for a bucket are among some files and one more. -/
theorem isShardFile_concat (hf : node.isFile = true) (he : ending ∈ shardEndings) {other : String} :
    IsShardFile (listing ++ [(other, node)]) bucket ending name ↔
      IsShardFile listing bucket ending name ∨
        name = other ∧ shardParts? other = some (bucket, ending) := by
  rw [shardParts?_eq_some_iff]
  constructor
  · intro h
    obtain ⟨found, hm, hn⟩ := h.listed
    rcases List.mem_append.1 hm with hm | hm
    · exact .inl ⟨⟨found, hm, hn⟩, h.other, h.parts, h.bucket⟩
    · cases List.mem_singleton.1 hm
      exact .inr ⟨rfl, h.other, h.parts, he, h.bucket⟩
  · rintro (h | ⟨rfl, hn, hp, -, hb⟩)
    · exact h.of_subset fun _ hm => List.mem_append_left _ hm
    · exact ⟨⟨node, by simp, hf⟩, hn, hp, hb⟩

theorem scriptEnding_mem : scriptEnding ∈ shardEndings := by decide

theorem dataEnding_mem : dataEnding ∈ shardEndings := by decide

/-- What is preferred for a bucket stays so, unless a script of the bucket is scanned. -/
theorem Prefers.concat (h : Prefers listing bucket name) (hf : node.isFile = true) {other : String}
    (hs : shardParts? other ≠ some (bucket, scriptEnding)) :
    Prefers (listing ++ [(other, node)]) bucket name := by
  have same {found : String} : IsShardFile (listing ++ [(other, node)]) bucket scriptEnding found ↔
      IsShardFile listing bucket scriptEnding found :=
    (isShardFile_concat hf scriptEnding_mem).trans (or_iff_left fun hl => hs hl.2)
  simp only [Prefers, same]
  exact h.imp_right fun hd => ⟨hd.1, (isShardFile_concat hf dataEnding_mem).2 (.inl hd.2)⟩

/-- A script is preferred for its bucket. -/
theorem prefers_script (hf : node.isFile = true)
    (h : shardParts? name = some (bucket, scriptEnding)) :
    Prefers (listing ++ [(name, node)]) bucket name :=
  .inl ((isShardFile_concat hf scriptEnding_mem).2 (.inr ⟨rfl, h⟩))

/-- A data document is preferred for its bucket where no script was scanned before. -/
theorem prefers_data (hf : node.isFile = true) (h : shardParts? name = some (bucket, dataEnding))
    (hs : ¬∃ script, IsShardFile listing bucket scriptEnding script) :
    Prefers (listing ++ [(name, node)]) bucket name := by
  refine .inr ⟨?_, (isShardFile_concat hf dataEnding_mem).2 (.inr ⟨rfl, h⟩)⟩
  rintro ⟨script, hl⟩
  rcases (isShardFile_concat hf scriptEnding_mem).1 hl with hl | ⟨-, hl⟩
  · exact hs ⟨script, hl⟩
  · have other : dataEnding ≠ scriptEnding := by decide
    exact other (congrArg Prod.snd (Option.some.inj (h.symm.trans hl)))

namespace Folder

/-! ## One file -/

/-- A file that is for no bucket leaves the shard files as they are; one that is for a bucket is
written there unless it gives way to another. -/
theorem shards_addFile (folder : Folder) (name : String) (node : Node) :
    (folder.addFile name node).shards =
      match shardParts? name with
      | none => folder.shards
      | some (bucket, ending) =>
        if Keyed.has bucket folder.shards && ending != scriptEnding then folder.shards
        else Keyed.put bucket name folder.shards := by
  unfold addFile
  simp only
  by_cases hn : name = manifestName
  · have passed : shardParts? name = none := if_neg fun h => h.1 hn
    rw [passed, if_pos hn]
    split <;> rfl
  · rw [if_neg hn]
    by_cases he : lower (splitEnding name).2 ∈ shardEndings
    · rw [if_neg (by simpa using he)]
      cases hb : BucketId.parse (splitEnding name).1 with
      | error fault =>
        have passed : shardParts? name = none := by
          refine if_neg fun h => ?_
          have parsed := h.2.2
          rw [nameParts, hb] at parsed
          cases parsed
        rw [passed]
      | ok id =>
        have told : shardParts? name = some ((splitEnding name).1, lower (splitEnding name).2) :=
          if_pos ⟨hn, he, by rw [nameParts, hb]; rfl⟩
        rw [told]
        simp only
        split <;> rfl
    · have passed : shardParts? name = none := if_neg fun h => he h.2.1
      rw [passed, if_pos (by simpa using he)]

/-- Only the manifest changes what is known of the sections, and only if it can be read. -/
theorem manifest_addFile (folder : Folder) (name : String) (node : Node) :
    (folder.addFile name node).manifest = folder.manifest ∨
      name = manifestName ∧ ∃ bytes manifest, node = .document bytes ∧
        readManifest? bytes = some manifest ∧
        (folder.addFile name node).manifest = some manifest := by
  unfold addFile
  simp only
  split
  · split
    · rename_i bytes
      cases hm : readManifest? bytes with
      | none => exact .inl rfl
      | some manifest => exact .inr ⟨‹_›, bytes, manifest, rfl, hm, rfl⟩
    · exact .inl rfl
  · left
    split
    · rfl
    · split
      · rfl
      · split <;> rfl

theorem manifest_addFile_of_read (folder : Folder) {bytes : List UInt8} {manifest : Manifest}
    (h : readManifest? bytes = some manifest) :
    (folder.addFile manifestName (.document bytes)).manifest = some manifest := by
  simp only [addFile, if_true, h, Option.some_or]

/-! ## All files -/

/-- Whether a folder holds what it has to of the files that were scanned, the last ones perhaps in
the place of others. -/
structure Follows (folder : Folder) (scanned : List (String × Node)) : Prop where
  preferred : ∀ bucket name, Keyed.get? bucket folder.shards = some name →
    Prefers scanned bucket name
  found : ∀ bucket ending name, ending ∈ shardEndings → IsShardFile scanned bucket ending name →
    Keyed.get? bucket folder.shards ≠ none
  read : ∀ manifest, folder.manifest = some manifest →
    ∃ bytes, (manifestName, .document bytes) ∈ scanned ∧ readManifest? bytes = some manifest
  readable : ∀ bytes manifest, (manifestName, .document bytes) ∈ scanned →
    readManifest? bytes = some manifest → folder.manifest ≠ none

namespace Follows

variable {folder : Folder} {scanned : List (String × Node)}

/-- What is no file is passed over. -/
theorem pass (h : Follows folder scanned) (hn : ¬node.isFile = true) :
    Follows folder (scanned ++ [(name, node)]) := by
  have same {bucket ending other : String} :
      IsShardFile (scanned ++ [(name, node)]) bucket ending other ↔
        IsShardFile scanned bucket ending other := by
    refine ⟨fun hs => ?_, fun hs => hs.of_subset fun _ hm => List.mem_append_left _ hm⟩
    obtain ⟨found, hm, hf⟩ := hs.listed
    refine ⟨⟨found, (List.mem_append.1 hm).resolve_right fun hl => ?_, hf⟩, hs.other, hs.parts,
      hs.bucket⟩
    cases List.mem_singleton.1 hl
    exact hn hf
  have document {bytes : List UInt8} (hm : (manifestName, Node.document bytes) ∈
      scanned ++ [(name, node)]) : (manifestName, Node.document bytes) ∈ scanned := by
    refine (List.mem_append.1 hm).resolve_right fun hl => ?_
    cases List.mem_singleton.1 hl
    exact hn rfl
  refine ⟨fun bucket other hg => ?_, fun bucket ending other he hs => ?_, fun manifest hm => ?_,
    fun bytes manifest hm => h.readable bytes manifest (document hm)⟩
  · simpa only [Prefers, same] using h.preferred bucket other hg
  · exact h.found bucket ending other he (same.1 hs)
  · obtain ⟨bytes, hb, hr⟩ := h.read manifest hm
    exact ⟨bytes, List.mem_append_left _ hb, hr⟩

theorem preferred_addFile (h : Follows folder scanned) (hn : node.isFile = true)
    {bucket other : String}
    (hg : Keyed.get? bucket (folder.addFile name node).shards = some other) :
    Prefers (scanned ++ [(name, node)]) bucket other := by
  rw [shards_addFile] at hg
  cases hs : shardParts? name with
  | none =>
    rw [hs] at hg
    exact (h.preferred bucket other hg).concat hn (by simp [hs])
  | some parts =>
    obtain ⟨own, ending⟩ := parts
    rw [hs] at hg
    simp only at hg
    -- the file of another bucket and a data document hide nothing that was preferred
    have kept (hg : Keyed.get? bucket folder.shards = some other)
        (ho : own ≠ bucket ∨ ending ≠ scriptEnding) :
        Prefers (scanned ++ [(name, node)]) bucket other := by
      refine (h.preferred bucket other hg).concat hn fun hl => ?_
      cases hs.symm.trans hl
      exact ho.elim (absurd rfl) (absurd rfl)
    split at hg
    · rename_i hh
      rw [Bool.and_eq_true, bne_iff_ne] at hh
      exact kept hg (.inr hh.2)
    · rename_i hh
      by_cases hb : bucket = own
      · subst hb
        rw [Keyed.get?_put_self, Option.some_inj] at hg
        subst hg
        have listed := (shardParts?_eq_some_iff.1 hs).2.2.1
        simp only [shardEndings, List.mem_cons, List.not_mem_nil, or_false] at listed
        obtain rfl | rfl := listed
        · exact prefers_script hn hs
        · -- a data document is only written where there was no file, and so no script
          refine prefers_data hn hs ?_
          rintro ⟨script, hf⟩
          refine h.found bucket _ script scriptEnding_mem hf ?_
          simpa [Keyed.has, scriptEnding] using hh
      · rw [Keyed.get?_put_of_ne hb] at hg
        exact kept hg (.inl (Ne.symm hb))

theorem found_addFile (h : Follows folder scanned) (hn : node.isFile = true)
    {bucket ending other : String} (he : ending ∈ shardEndings)
    (hs : IsShardFile (scanned ++ [(name, node)]) bucket ending other) :
    Keyed.get? bucket (folder.addFile name node).shards ≠ none := by
  -- no bucket loses its file
  have kept (hk : Keyed.get? bucket folder.shards ≠ none) :
      Keyed.get? bucket (folder.addFile name node).shards ≠ none := by
    rw [shards_addFile]
    split
    · exact hk
    · rename_i own _ _
      split
      · exact hk
      · by_cases hb : bucket = own
        · rw [hb, Keyed.get?_put_self]
          exact Option.some_ne_none _
        · rwa [Keyed.get?_put_of_ne hb]
  rcases (isShardFile_concat hn he).1 hs with hs | ⟨rfl, hs⟩
  · exact kept (h.found bucket ending other he hs)
  · rw [shards_addFile, hs]
    simp only
    split
    · rename_i hh
      rw [Bool.and_eq_true] at hh
      intro hg
      rw [Keyed.has, hg] at hh
      cases hh.1
    · rw [Keyed.get?_put_self]
      exact Option.some_ne_none _

theorem addFile (h : Follows folder scanned) (hn : node.isFile = true) :
    Follows (folder.addFile name node) (scanned ++ [(name, node)]) := by
  refine ⟨fun _ _ => h.preferred_addFile hn, fun _ _ _ he => h.found_addFile hn he,
    fun manifest hm => ?_, fun bytes manifest hl hr hm => ?_⟩
  · obtain same | ⟨rfl, bytes, manifest, rfl, hr, read⟩ := folder.manifest_addFile name node
    · obtain ⟨bytes, hb, hr⟩ := h.read manifest (same ▸ hm)
      exact ⟨bytes, List.mem_append_left _ hb, hr⟩
    · cases read.symm.trans hm
      exact ⟨bytes, by simp, hr⟩
  · rcases List.mem_append.1 hl with hl | hl
    · obtain same | ⟨-, _, _, -, -, read⟩ := folder.manifest_addFile name node
      · exact h.readable bytes manifest hl hr (same ▸ hm)
      · cases read.symm.trans hm
    · cases List.mem_singleton.1 hl
      cases (folder.manifest_addFile_of_read hr).symm.trans hm

end Follows

/-- What a folder holds of the files that were scanned. -/
theorem follows_ofListing (root : Path) (listing : List (String × Node)) :
    Follows (ofListing root listing) listing := by
  have all (folder : Folder) (scanned : List (String × Node)) (h : Follows folder scanned) :
      Follows (listing.foldl (fun folder file =>
        if file.2.isFile then folder.addFile file.1 file.2 else folder) folder)
        (scanned ++ listing) := by
    induction listing generalizing folder scanned with
    | nil => simpa using h
    | cons file listing ih =>
      rw [List.foldl_cons, ← List.singleton_append, ← List.append_assoc]
      apply ih
      split
      · exact h.addFile ‹_›
      · exact h.pass ‹_›
  have start : Follows { root } [] := by
    refine ⟨nofun, fun _ _ _ _ hs => ?_, nofun, nofun⟩
    obtain ⟨_, hm, -⟩ := hs.listed
    cases hm
  exact all { root } [] start

/-- A bucket has the file that is preferred for it. -/
theorem get?_shards_eq_some_iff (h : TellsApart listing) (root : Path) :
    Keyed.get? bucket (ofListing root listing).shards = some name ↔
      Prefers listing bucket name := by
  have follows := follows_ofListing root listing
  refine ⟨follows.preferred bucket name, fun hp => ?_⟩
  have held : Keyed.get? bucket (ofListing root listing).shards ≠ none := by
    obtain hs | ⟨-, hs⟩ := hp
    · exact follows.found bucket _ name (by decide) hs
    · exact follows.found bucket _ name (by decide) hs
  obtain ⟨other, ho⟩ := Option.ne_none_iff_exists'.1 held
  rw [ho, Option.some_inj]
  obtain hs | ⟨no, hs⟩ := hp
  · obtain hs' | ⟨no, -⟩ := follows.preferred bucket other ho
    · exact h.eq_of_isShardFile hs' hs
    · exact absurd ⟨name, hs⟩ no
  · obtain hs' | ⟨-, hs'⟩ := follows.preferred bucket other ho
    · exact absurd ⟨other, hs'⟩ no
    · exact h.eq_of_isShardFile hs' hs

/-- The manifest is what the file with its name writes. -/
theorem manifest_eq_some_iff (h : TellsApart listing) (root : Path) {manifest : Manifest} :
    (ofListing root listing).manifest = some manifest ↔
      ∃ bytes, (manifestName, .document bytes) ∈ listing ∧ readManifest? bytes = some manifest := by
  have follows := follows_ofListing root listing
  refine ⟨follows.read manifest, ?_⟩
  rintro ⟨bytes, hm, hr⟩
  obtain ⟨other, ho⟩ := Option.ne_none_iff_exists'.1 (follows.readable bytes manifest hm hr)
  obtain ⟨more, hm', hr'⟩ := follows.read other ho
  cases h.eq_of_parts hm hm' rfl rfl rfl
  rw [ho, ← hr, hr']

/-- The buckets are those of the shard files. -/
theorem mem_keys_shards (root : Path) (listing : List (String × Node)) (bucket : String) :
    bucket ∈ Keyed.keys (ofListing root listing).shards ↔
      ∃ ending ∈ shardEndings, ∃ name, IsShardFile listing bucket ending name := by
  have follows := follows_ofListing root listing
  have held : bucket ∈ Keyed.keys (ofListing root listing).shards ↔
      Keyed.get? bucket (ofListing root listing).shards ≠ none := by
    rw [ne_eq, Keyed.get?_eq_none, not_not]
  rw [held]
  constructor
  · intro hg
    obtain ⟨name, hn⟩ := Option.ne_none_iff_exists'.1 hg
    obtain hs | ⟨-, hs⟩ := follows.preferred bucket name hn
    · exact ⟨scriptEnding, by decide, name, hs⟩
    · exact ⟨dataEnding, by decide, name, hs⟩
  · rintro ⟨ending, he, name, hs⟩
    exact follows.found bucket ending name he hs

/-- Two scans of one directory find the same buckets. -/
theorem keys_shards_perm (root : Path) (hp : listing.Perm others) :
    (Keyed.keys (ofListing root listing).shards).Perm
      (Keyed.keys (ofListing root others).shards) := by
  rw [List.perm_ext_iff_of_nodup (nodup_ofListing root listing) (nodup_ofListing root others)]
  intro bucket
  simp only [mem_keys_shards, isShardFile_perm hp]

/-- A folder without a manifest that can be read has the standard partitions. -/
theorem partition_of_unreadable (root : Path)
    (h : ∀ bytes, (manifestName, .document bytes) ∈ listing → readManifest? bytes = none)
    (index : String) : (ofListing root listing).partition index = { index } := by
  cases hm : (ofListing root listing).manifest with
  | none => rw [partition, hm]; rfl
  | some manifest =>
    obtain ⟨bytes, hb, hr⟩ := (follows_ofListing root listing).read manifest hm
    cases (h bytes hb).symm.trans hr

/-- **A folder is what its files make it, however they were scanned.** Let no two files of a
directory have names that differ in the case of the ending alone. Its buckets are what the names of
its scripts and data documents other than the manifest are cut to, where they are names of buckets.
Each has its script, or its data document if it has no script, and another scan finds the same.
Both tell the same indexes, and the manifest and the partitions that come of it are the same. A
manifest that cannot be read leaves the standard partitions, and the folder is opened all the
same. -/
theorem ofListing_perm (h : TellsApart listing) (hp : listing.Perm others) (root : Path) :
    let folder := ofListing root listing
    let other := ofListing root others
    (∀ bucket, bucket ∈ Keyed.keys folder.shards ↔
      ∃ ending ∈ shardEndings, ∃ name, IsShardFile listing bucket ending name) ∧
    (∀ bucket name, Keyed.get? bucket folder.shards = some name ↔ Prefers listing bucket name) ∧
    (∀ bucket, Keyed.get? bucket other.shards = Keyed.get? bucket folder.shards) ∧
    (∃ indexes, (Source.folder folder).indexes = .ok indexes ∧
      (Source.folder other).indexes = .ok indexes) ∧
    (∀ manifest, folder.manifest = some manifest ↔
      ∃ bytes, (manifestName, .document bytes) ∈ listing ∧
        readManifest? bytes = some manifest) ∧
    other.manifest = folder.manifest ∧
    (∀ index, (Source.folder other).partition index = (Source.folder folder).partition index) ∧
    ((∀ bytes, (manifestName, .document bytes) ∈ listing → readManifest? bytes = none) →
      ∀ index, (Source.folder folder).partition index =
        .ok { index, alphabet := defaultAlphabet }) ∧
    ∀ files : Files, files.hasDirectory root = true → files.listing root = others →
      openFolder files root = .ok (.folder other) := by
  intro folder other
  have shards (bucket : String) :
      Keyed.get? bucket other.shards = Keyed.get? bucket folder.shards := by
    ext name
    rw [get?_shards_eq_some_iff (h.perm hp), get?_shards_eq_some_iff h, prefers_perm hp]
  have manifest : other.manifest = folder.manifest := by
    ext manifest
    rw [manifest_eq_some_iff (h.perm hp), manifest_eq_some_iff h]
    simp only [hp.mem_iff]
  refine ⟨mem_keys_shards root listing, fun _ _ => get?_shards_eq_some_iff h root, shards, ?_,
    fun _ => manifest_eq_some_iff h root, manifest, fun index => ?_, fun unreadable index => ?_,
    fun files hd hl => ?_⟩
  · refine indexesOf_perm (fun bucket hb => ?_) (keys_shards_perm root hp)
    obtain ⟨_, -, _, hs⟩ := (mem_keys_shards root listing bucket).1 hb
    exact hs.bucket
  · rw [Source.partition, Source.partition, partition, partition, manifest]
  · exact congrArg Except.ok (partition_of_unreadable root unreadable index)
  · rw [openFolder, if_pos hd, hl]

/-- A script and a data document of one bucket lie beside a manifest that is no text, a directory
and a file of another kind. Scanned in either direction, the bucket has its script. -/
theorem ofListing_perm_of_five :
    let listing : List (String × Node) := [("all_1.JS", .document []), ("all_1.json", .document []),
      ("searchdata.js", .document [255]), ("all_2.js", .directory), ("all_3.css", .document [])]
    let root : Path := { names := ["search"] }
    let folder := ofListing root listing
    let other := ofListing root listing.reverse
    Keyed.get? "all_1" folder.shards = some "all_1.JS" ∧
      Keyed.get? "all_1" other.shards = some "all_1.JS" ∧
      Keyed.get? "all_2" other.shards = none ∧
      (∃ indexes, (Source.folder folder).indexes = .ok indexes ∧
        (Source.folder other).indexes = .ok indexes) ∧
      (Source.folder folder).partition "all" = .ok { index := "all" } ∧
      (Source.folder other).partition "all" = .ok { index := "all" } ∧
      openFolder ((["search"], .directory) :: listing.reverse.map fun file =>
        (["search", file.1], file.2)) root = .ok (.folder other) := by
  intro listing root folder other
  have apart : TellsApart listing := by unfold TellsApart; decide
  obtain ⟨-, preferred, shards, indexes, -, -, partition, standard, opened⟩ :=
    ofListing_perm apart (List.reverse_perm listing).symm root
  have script : IsShardFile listing "all_1" scriptEnding "all_1.JS" :=
    ⟨⟨.document [], by simp [listing], rfl⟩, by decide, by decide, ⟨⟨"all", 1⟩, by decide⟩⟩
  have first : Keyed.get? "all_1" folder.shards = some "all_1.JS" :=
    (preferred "all_1" "all_1.JS").2 (.inl script)
  have own := standard (fun bytes hm => ?_) "all"
  · refine ⟨first, (shards "all_1").trans first, ?_, indexes, own, (partition "all").trans own,
      opened _ ?_ ?_⟩
    · decide
    · decide
    · rfl
  · have unreadable : bytes = [255] := by simpa [listing, manifestName] using hm
    rw [unreadable]
    decide

end Folder

end SymbolLookup
