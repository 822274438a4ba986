import ContractVerifier.Charset.Page.Basic

set_option autoImplicit false

/-! # Pages: EBCDIC

The arrangements of mainframes, in which ASCII characters have other places as well.
-/

namespace ContractVerifier.Charset.Page

/-- The page `cp037`. -/
def cp037 : Page := ofTable
  "0 1 2 3 9C 9 86 7F 97 8D 8E B C D E F 10 11 12 13 9D 85 8 87 18 19 92 8F 1C 1D 1E 1F 80 81
   82 83 84 A 17 1B 88 89 8A 8B 8C 5 6 7 90 91 16 93 94 95 96 4 98 99 9A 9B 14 15 9E 1A 20 A0
   E2 E4 E0 E1 E3 E5 E7 F1 A2 2E 3C 28 2B 7C 26 E9 EA EB E8 ED EE EF EC DF 21 24 2A 29 3B AC 2D
   2F C2 C4 C0 C1 C3 C5 C7 D1 A6 2C 25 5F 3E 3F F8 C9 CA CB C8 CD CE CF CC 60 3A 23 40 27 3D 22
   D8 61 62 63 64 65 66 67 68 69 AB BB F0 FD FE B1 B0 6A 6B 6C 6D 6E 6F 70 71 72 AA BA E6 B8 C6
   A4 B5 7E 73 74 75 76 77 78 79 7A A1 BF D0 DD DE AE 5E A3 A5 B7 A9 A7 B6 BC BD BE 5B 5D AF A8
   B4 D7 7B 41 42 43 44 45 46 47 48 49 AD F4 F6 F2 F3 F5 7D 4A 4B 4C 4D 4E 4F 50 51 52 B9 FB FC
   F9 FA FF 5C F7 53 54 55 56 57 58 59 5A B2 D4 D6 D2 D3 D5 30 31 32 33 34 35 36 37 38 39 B3 DB
   DC D9 DA 9F"

/-- The page `cp273`. -/
def cp273 : Page := ofTable
  "0 1 2 3 9C 9 86 7F 97 8D 8E B C D E F 10 11 12 13 9D 85 8 87 18 19 92 8F 1C 1D 1E 1F 80 81
   82 83 84 A 17 1B 88 89 8A 8B 8C 5 6 7 90 91 16 93 94 95 96 4 98 99 9A 9B 14 15 9E 1A 20 A0
   E2 7B E0 E1 E3 E5 E7 F1 C4 2E 3C 28 2B 21 26 E9 EA EB E8 ED EE EF EC 7E DC 24 2A 29 3B 5E 2D
   2F C2 5B C0 C1 C3 C5 C7 D1 F6 2C 25 5F 3E 3F F8 C9 CA CB C8 CD CE CF CC 60 3A 23 A7 27 3D 22
   D8 61 62 63 64 65 66 67 68 69 AB BB F0 FD FE B1 B0 6A 6B 6C 6D 6E 6F 70 71 72 AA BA E6 B8 C6
   A4 B5 DF 73 74 75 76 77 78 79 7A A1 BF D0 DD DE AE A2 A3 A5 B7 A9 40 B6 BC BD BE AC 7C 203E
   A8 B4 D7 E4 41 42 43 44 45 46 47 48 49 AD F4 A6 F2 F3 F5 FC 4A 4B 4C 4D 4E 4F 50 51 52 B9 FB
   7D F9 FA FF D6 F7 53 54 55 56 57 58 59 5A B2 D4 5C D2 D3 D5 30 31 32 33 34 35 36 37 38 39 B3
   DB 5D D9 DA 9F"

/-- The page `cp424`. -/
def cp424 : Page := ofTable
  "0 1 2 3 9C 9 86 7F 97 8D 8E B C D E F 10 11 12 13 9D 85 8 87 18 19 92 8F 1C 1D 1E 1F 80 81
   82 83 84 A 17 1B 88 89 8A 8B 8C 5 6 7 90 91 16 93 94 95 96 4 98 99 9A 9B 14 15 9E 1A 20 5D0
   5D1 5D2 5D3 5D4 5D5 5D6 5D7 5D8 A2 2E 3C 28 2B 7C 26 5D9 5DA 5DB 5DC 5DD 5DE 5DF 5E0 5E1 21
   24 2A 29 3B AC 2D 2F 5E2 5E3 5E4 5E5 5E6 5E7 5E8 5E9 A6 2C 25 5F 3E 3F FFFD 5EA FFFD FFFD A0
   FFFD FFFD FFFD 2017 60 3A 23 40 27 3D 22 FFFD 61 62 63 64 65 66 67 68 69 AB BB FFFD FFFD
   FFFD B1 B0 6A 6B 6C 6D 6E 6F 70 71 72 FFFD FFFD FFFD B8 FFFD A4 B5 7E 73 74 75 76 77 78 79
   7A FFFD FFFD FFFD FFFD FFFD AE 5E A3 A5 B7 A9 A7 B6 BC BD BE 5B 5D AF A8 B4 D7 7B 41 42 43
   44 45 46 47 48 49 AD FFFD FFFD FFFD FFFD FFFD 7D 4A 4B 4C 4D 4E 4F 50 51 52 B9 FFFD FFFD
   FFFD FFFD FFFD 5C F7 53 54 55 56 57 58 59 5A B2 FFFD FFFD FFFD FFFD FFFD 30 31 32 33 34 35
   36 37 38 39 B3 FFFD FFFD FFFD FFFD 9F"

/-- The page `cp500`. -/
def cp500 : Page := ofTable
  "0 1 2 3 9C 9 86 7F 97 8D 8E B C D E F 10 11 12 13 9D 85 8 87 18 19 92 8F 1C 1D 1E 1F 80 81
   82 83 84 A 17 1B 88 89 8A 8B 8C 5 6 7 90 91 16 93 94 95 96 4 98 99 9A 9B 14 15 9E 1A 20 A0
   E2 E4 E0 E1 E3 E5 E7 F1 5B 2E 3C 28 2B 21 26 E9 EA EB E8 ED EE EF EC DF 5D 24 2A 29 3B 5E 2D
   2F C2 C4 C0 C1 C3 C5 C7 D1 A6 2C 25 5F 3E 3F F8 C9 CA CB C8 CD CE CF CC 60 3A 23 40 27 3D 22
   D8 61 62 63 64 65 66 67 68 69 AB BB F0 FD FE B1 B0 6A 6B 6C 6D 6E 6F 70 71 72 AA BA E6 B8 C6
   A4 B5 7E 73 74 75 76 77 78 79 7A A1 BF D0 DD DE AE A2 A3 A5 B7 A9 A7 B6 BC BD BE AC 7C AF A8
   B4 D7 7B 41 42 43 44 45 46 47 48 49 AD F4 F6 F2 F3 F5 7D 4A 4B 4C 4D 4E 4F 50 51 52 B9 FB FC
   F9 FA FF 5C F7 53 54 55 56 57 58 59 5A B2 D4 D6 D2 D3 D5 30 31 32 33 34 35 36 37 38 39 B3 DB
   DC D9 DA 9F"

/-- The page `cp875`. -/
def cp875 : Page := ofTable
  "0 1 2 3 9C 9 86 7F 97 8D 8E B C D E F 10 11 12 13 9D 85 8 87 18 19 92 8F 1C 1D 1E 1F 80 81
   82 83 84 A 17 1B 88 89 8A 8B 8C 5 6 7 90 91 16 93 94 95 96 4 98 99 9A 9B 14 15 9E 1A 20 391
   392 393 394 395 396 397 398 399 5B 2E 3C 28 2B 21 26 39A 39B 39C 39D 39E 39F 3A0 3A1 3A3 5D
   24 2A 29 3B 5E 2D 2F 3A4 3A5 3A6 3A7 3A8 3A9 3AA 3AB 7C 2C 25 5F 3E 3F A8 386 388 389 A0 38A
   38C 38E 38F 60 3A 23 40 27 3D 22 385 61 62 63 64 65 66 67 68 69 3B1 3B2 3B3 3B4 3B5 3B6 B0
   6A 6B 6C 6D 6E 6F 70 71 72 3B7 3B8 3B9 3BA 3BB 3BC B4 7E 73 74 75 76 77 78 79 7A 3BD 3BE 3BF
   3C0 3C1 3C3 A3 3AC 3AD 3AE 3CA 3AF 3CC 3CD 3CB 3CE 3C2 3C4 3C5 3C6 3C7 3C8 7B 41 42 43 44 45
   46 47 48 49 AD 3C9 390 3B0 2018 2015 7D 4A 4B 4C 4D 4E 4F 50 51 52 B1 BD 1A 387 2019 A6 5C
   1A 53 54 55 56 57 58 59 5A B2 A7 1A 1A AB AC 30 31 32 33 34 35 36 37 38 39 B3 A9 1A 1A BB 9F"

/-- The page `cp1026`. -/
def cp1026 : Page := ofTable
  "0 1 2 3 9C 9 86 7F 97 8D 8E B C D E F 10 11 12 13 9D 85 8 87 18 19 92 8F 1C 1D 1E 1F 80 81
   82 83 84 A 17 1B 88 89 8A 8B 8C 5 6 7 90 91 16 93 94 95 96 4 98 99 9A 9B 14 15 9E 1A 20 A0
   E2 E4 E0 E1 E3 E5 7B F1 C7 2E 3C 28 2B 21 26 E9 EA EB E8 ED EE EF EC DF 11E 130 2A 29 3B 5E
   2D 2F C2 C4 C0 C1 C3 C5 5B D1 15F 2C 25 5F 3E 3F F8 C9 CA CB C8 CD CE CF CC 131 3A D6 15E 27
   3D DC D8 61 62 63 64 65 66 67 68 69 AB BB 7D 60 A6 B1 B0 6A 6B 6C 6D 6E 6F 70 71 72 AA BA E6
   B8 C6 A4 B5 F6 73 74 75 76 77 78 79 7A A1 BF 5D 24 40 AE A2 A3 A5 B7 A9 A7 B6 BC BD BE AC 7C
   AF A8 B4 D7 E7 41 42 43 44 45 46 47 48 49 AD F4 7E F2 F3 F5 11F 4A 4B 4C 4D 4E 4F 50 51 52
   B9 FB 5C F9 FA FF FC F7 53 54 55 56 57 58 59 5A B2 D4 23 D2 D3 D5 30 31 32 33 34 35 36 37 38
   39 B3 DB 22 D9 DA 9F"

/-- The page `cp1140`. -/
def cp1140 : Page := ofTable
  "0 1 2 3 9C 9 86 7F 97 8D 8E B C D E F 10 11 12 13 9D 85 8 87 18 19 92 8F 1C 1D 1E 1F 80 81
   82 83 84 A 17 1B 88 89 8A 8B 8C 5 6 7 90 91 16 93 94 95 96 4 98 99 9A 9B 14 15 9E 1A 20 A0
   E2 E4 E0 E1 E3 E5 E7 F1 A2 2E 3C 28 2B 7C 26 E9 EA EB E8 ED EE EF EC DF 21 24 2A 29 3B AC 2D
   2F C2 C4 C0 C1 C3 C5 C7 D1 A6 2C 25 5F 3E 3F F8 C9 CA CB C8 CD CE CF CC 60 3A 23 40 27 3D 22
   D8 61 62 63 64 65 66 67 68 69 AB BB F0 FD FE B1 B0 6A 6B 6C 6D 6E 6F 70 71 72 AA BA E6 B8 C6
   20AC B5 7E 73 74 75 76 77 78 79 7A A1 BF D0 DD DE AE 5E A3 A5 B7 A9 A7 B6 BC BD BE 5B 5D AF
   A8 B4 D7 7B 41 42 43 44 45 46 47 48 49 AD F4 F6 F2 F3 F5 7D 4A 4B 4C 4D 4E 4F 50 51 52 B9 FB
   FC F9 FA FF 5C F7 53 54 55 56 57 58 59 5A B2 D4 D6 D2 D3 D5 30 31 32 33 34 35 36 37 38 39 B3
   DB DC D9 DA 9F"

end ContractVerifier.Charset.Page
