import ContractVerifier.Charset.Page.Basic

set_option autoImplicit false

/-! # Pages: ISO 8859

The alphabets of Europe and of its neighbours, as ISO 8859 arranges them: below 0xA0 there
are ASCII and a second block of controls.
-/

namespace ContractVerifier.Charset.Page

/-- The page `iso8859-2`. -/
def iso88592 : Page := ofTable
  "80 81 82 83 84 85 86 87 88 89 8A 8B 8C 8D 8E 8F 90 91 92 93 94 95 96 97 98 99 9A 9B 9C 9D 9E
   9F A0 104 2D8 141 A4 13D 15A A7 A8 160 15E 164 179 AD 17D 17B B0 105 2DB 142 B4 13E 15B 2C7
   B8 161 15F 165 17A 2DD 17E 17C 154 C1 C2 102 C4 139 106 C7 10C C9 118 CB 11A CD CE 10E 110
   143 147 D3 D4 150 D6 D7 158 16E DA 170 DC DD 162 DF 155 E1 E2 103 E4 13A 107 E7 10D E9 119
   EB 11B ED EE 10F 111 144 148 F3 F4 151 F6 F7 159 16F FA 171 FC FD 163 2D9"

/-- The page `iso8859-3`. -/
def iso88593 : Page := ofTable
  "80 81 82 83 84 85 86 87 88 89 8A 8B 8C 8D 8E 8F 90 91 92 93 94 95 96 97 98 99 9A 9B 9C 9D 9E
   9F A0 126 2D8 A3 A4 FFFD 124 A7 A8 130 15E 11E 134 AD FFFD 17B B0 127 B2 B3 B4 B5 125 B7 B8
   131 15F 11F 135 BD FFFD 17C C0 C1 C2 FFFD C4 10A 108 C7 C8 C9 CA CB CC CD CE CF FFFD D1 D2
   D3 D4 120 D6 D7 11C D9 DA DB DC 16C 15C DF E0 E1 E2 FFFD E4 10B 109 E7 E8 E9 EA EB EC ED EE
   EF FFFD F1 F2 F3 F4 121 F6 F7 11D F9 FA FB FC 16D 15D 2D9"

/-- The page `iso8859-4`. -/
def iso88594 : Page := ofTable
  "80 81 82 83 84 85 86 87 88 89 8A 8B 8C 8D 8E 8F 90 91 92 93 94 95 96 97 98 99 9A 9B 9C 9D 9E
   9F A0 104 138 156 A4 128 13B A7 A8 160 112 122 166 AD 17D AF B0 105 2DB 157 B4 129 13C 2C7
   B8 161 113 123 167 14A 17E 14B 100 C1 C2 C3 C4 C5 C6 12E 10C C9 118 CB 116 CD CE 12A 110 145
   14C 136 D4 D5 D6 D7 D8 172 DA DB DC 168 16A DF 101 E1 E2 E3 E4 E5 E6 12F 10D E9 119 EB 117
   ED EE 12B 111 146 14D 137 F4 F5 F6 F7 F8 173 FA FB FC 169 16B 2D9"

/-- The page `iso8859-5`. -/
def iso88595 : Page := ofTable
  "80 81 82 83 84 85 86 87 88 89 8A 8B 8C 8D 8E 8F 90 91 92 93 94 95 96 97 98 99 9A 9B 9C 9D 9E
   9F A0 401 402 403 404 405 406 407 408 409 40A 40B 40C AD 40E 40F 410 411 412 413 414 415 416
   417 418 419 41A 41B 41C 41D 41E 41F 420 421 422 423 424 425 426 427 428 429 42A 42B 42C 42D
   42E 42F 430 431 432 433 434 435 436 437 438 439 43A 43B 43C 43D 43E 43F 440 441 442 443 444
   445 446 447 448 449 44A 44B 44C 44D 44E 44F 2116 451 452 453 454 455 456 457 458 459 45A 45B
   45C A7 45E 45F"

/-- The page `iso8859-6`. -/
def iso88596 : Page := ofTable
  "80 81 82 83 84 85 86 87 88 89 8A 8B 8C 8D 8E 8F 90 91 92 93 94 95 96 97 98 99 9A 9B 9C 9D 9E
   9F A0 FFFD FFFD FFFD A4 FFFD FFFD FFFD FFFD FFFD FFFD FFFD 60C AD FFFD FFFD FFFD FFFD FFFD
   FFFD FFFD FFFD FFFD FFFD FFFD FFFD FFFD 61B FFFD FFFD FFFD 61F FFFD 621 622 623 624 625 626
   627 628 629 62A 62B 62C 62D 62E 62F 630 631 632 633 634 635 636 637 638 639 63A FFFD FFFD
   FFFD FFFD FFFD 640 641 642 643 644 645 646 647 648 649 64A 64B 64C 64D 64E 64F 650 651 652
   FFFD FFFD FFFD FFFD FFFD FFFD FFFD FFFD FFFD FFFD FFFD FFFD FFFD"

/-- The page `iso8859-7`. -/
def iso88597 : Page := ofTable
  "80 81 82 83 84 85 86 87 88 89 8A 8B 8C 8D 8E 8F 90 91 92 93 94 95 96 97 98 99 9A 9B 9C 9D 9E
   9F A0 2018 2019 A3 20AC 20AF A6 A7 A8 A9 37A AB AC AD FFFD 2015 B0 B1 B2 B3 384 385 386 B7
   388 389 38A BB 38C BD 38E 38F 390 391 392 393 394 395 396 397 398 399 39A 39B 39C 39D 39E
   39F 3A0 3A1 FFFD 3A3 3A4 3A5 3A6 3A7 3A8 3A9 3AA 3AB 3AC 3AD 3AE 3AF 3B0 3B1 3B2 3B3 3B4 3B5
   3B6 3B7 3B8 3B9 3BA 3BB 3BC 3BD 3BE 3BF 3C0 3C1 3C2 3C3 3C4 3C5 3C6 3C7 3C8 3C9 3CA 3CB 3CC
   3CD 3CE FFFD"

/-- The page `iso8859-8`. -/
def iso88598 : Page := ofTable
  "80 81 82 83 84 85 86 87 88 89 8A 8B 8C 8D 8E 8F 90 91 92 93 94 95 96 97 98 99 9A 9B 9C 9D 9E
   9F A0 FFFD A2 A3 A4 A5 A6 A7 A8 A9 D7 AB AC AD AE AF B0 B1 B2 B3 B4 B5 B6 B7 B8 B9 F7 BB BC
   BD BE FFFD FFFD FFFD FFFD FFFD FFFD FFFD FFFD FFFD FFFD FFFD FFFD FFFD FFFD FFFD FFFD FFFD
   FFFD FFFD FFFD FFFD FFFD FFFD FFFD FFFD FFFD FFFD FFFD FFFD FFFD FFFD FFFD 2017 5D0 5D1 5D2
   5D3 5D4 5D5 5D6 5D7 5D8 5D9 5DA 5DB 5DC 5DD 5DE 5DF 5E0 5E1 5E2 5E3 5E4 5E5 5E6 5E7 5E8 5E9
   5EA FFFD FFFD 200E 200F FFFD"

/-- The page `iso8859-9`. -/
def iso88599 : Page := ofTable
  "80 81 82 83 84 85 86 87 88 89 8A 8B 8C 8D 8E 8F 90 91 92 93 94 95 96 97 98 99 9A 9B 9C 9D 9E
   9F A0 A1 A2 A3 A4 A5 A6 A7 A8 A9 AA AB AC AD AE AF B0 B1 B2 B3 B4 B5 B6 B7 B8 B9 BA BB BC BD
   BE BF C0 C1 C2 C3 C4 C5 C6 C7 C8 C9 CA CB CC CD CE CF 11E D1 D2 D3 D4 D5 D6 D7 D8 D9 DA DB
   DC 130 15E DF E0 E1 E2 E3 E4 E5 E6 E7 E8 E9 EA EB EC ED EE EF 11F F1 F2 F3 F4 F5 F6 F7 F8 F9
   FA FB FC 131 15F FF"

/-- The page `iso8859-10`. -/
def iso885910 : Page := ofTable
  "80 81 82 83 84 85 86 87 88 89 8A 8B 8C 8D 8E 8F 90 91 92 93 94 95 96 97 98 99 9A 9B 9C 9D 9E
   9F A0 104 112 122 12A 128 136 A7 13B 110 160 166 17D AD 16A 14A B0 105 113 123 12B 129 137
   B7 13C 111 161 167 17E 2015 16B 14B 100 C1 C2 C3 C4 C5 C6 12E 10C C9 118 CB 116 CD CE CF D0
   145 14C D3 D4 D5 D6 168 D8 172 DA DB DC DD DE DF 101 E1 E2 E3 E4 E5 E6 12F 10D E9 119 EB 117
   ED EE EF F0 146 14D F3 F4 F5 F6 169 F8 173 FA FB FC FD FE 138"

/-- The page `iso8859-11`. -/
def iso885911 : Page := ofTable
  "80 81 82 83 84 85 86 87 88 89 8A 8B 8C 8D 8E 8F 90 91 92 93 94 95 96 97 98 99 9A 9B 9C 9D 9E
   9F A0 E01 E02 E03 E04 E05 E06 E07 E08 E09 E0A E0B E0C E0D E0E E0F E10 E11 E12 E13 E14 E15
   E16 E17 E18 E19 E1A E1B E1C E1D E1E E1F E20 E21 E22 E23 E24 E25 E26 E27 E28 E29 E2A E2B E2C
   E2D E2E E2F E30 E31 E32 E33 E34 E35 E36 E37 E38 E39 E3A FFFD FFFD FFFD FFFD E3F E40 E41 E42
   E43 E44 E45 E46 E47 E48 E49 E4A E4B E4C E4D E4E E4F E50 E51 E52 E53 E54 E55 E56 E57 E58 E59
   E5A E5B FFFD FFFD FFFD FFFD"

/-- The page `iso8859-13`. -/
def iso885913 : Page := ofTable
  "80 81 82 83 84 85 86 87 88 89 8A 8B 8C 8D 8E 8F 90 91 92 93 94 95 96 97 98 99 9A 9B 9C 9D 9E
   9F A0 201D A2 A3 A4 201E A6 A7 D8 A9 156 AB AC AD AE C6 B0 B1 B2 B3 201C B5 B6 B7 F8 B9 157
   BB BC BD BE E6 104 12E 100 106 C4 C5 118 112 10C C9 179 116 122 136 12A 13B 160 143 145 D3
   14C D5 D6 D7 172 141 15A 16A DC 17B 17D DF 105 12F 101 107 E4 E5 119 113 10D E9 17A 117 123
   137 12B 13C 161 144 146 F3 14D F5 F6 F7 173 142 15B 16B FC 17C 17E 2019"

/-- The page `iso8859-14`. -/
def iso885914 : Page := ofTable
  "80 81 82 83 84 85 86 87 88 89 8A 8B 8C 8D 8E 8F 90 91 92 93 94 95 96 97 98 99 9A 9B 9C 9D 9E
   9F A0 1E02 1E03 A3 10A 10B 1E0A A7 1E80 A9 1E82 1E0B 1EF2 AD AE 178 1E1E 1E1F 120 121 1E40
   1E41 B6 1E56 1E81 1E57 1E83 1E60 1EF3 1E84 1E85 1E61 C0 C1 C2 C3 C4 C5 C6 C7 C8 C9 CA CB CC
   CD CE CF 174 D1 D2 D3 D4 D5 D6 1E6A D8 D9 DA DB DC DD 176 DF E0 E1 E2 E3 E4 E5 E6 E7 E8 E9
   EA EB EC ED EE EF 175 F1 F2 F3 F4 F5 F6 1E6B F8 F9 FA FB FC FD 177 FF"

/-- The page `iso8859-15`. -/
def iso885915 : Page := ofTable
  "80 81 82 83 84 85 86 87 88 89 8A 8B 8C 8D 8E 8F 90 91 92 93 94 95 96 97 98 99 9A 9B 9C 9D 9E
   9F A0 A1 A2 A3 20AC A5 160 A7 161 A9 AA AB AC AD AE AF B0 B1 B2 B3 17D B5 B6 B7 17E B9 BA BB
   152 153 178 BF C0 C1 C2 C3 C4 C5 C6 C7 C8 C9 CA CB CC CD CE CF D0 D1 D2 D3 D4 D5 D6 D7 D8 D9
   DA DB DC DD DE DF E0 E1 E2 E3 E4 E5 E6 E7 E8 E9 EA EB EC ED EE EF F0 F1 F2 F3 F4 F5 F6 F7 F8
   F9 FA FB FC FD FE FF"

/-- The page `iso8859-16`. -/
def iso885916 : Page := ofTable
  "80 81 82 83 84 85 86 87 88 89 8A 8B 8C 8D 8E 8F 90 91 92 93 94 95 96 97 98 99 9A 9B 9C 9D 9E
   9F A0 104 105 141 20AC 201E 160 A7 161 A9 218 AB 179 AD 17A 17B B0 B1 10C 142 17D 201D B6 B7
   17E 10D 219 BB 152 153 178 17C C0 C1 C2 102 C4 106 C6 C7 C8 C9 CA CB CC CD CE CF 110 143 D2
   D3 D4 150 D6 15A 170 D9 DA DB DC 118 21A DF E0 E1 E2 103 E4 107 E6 E7 E8 E9 EA EB EC ED EE
   EF 111 144 F2 F3 F4 151 F6 15B 171 F9 FA FB FC 119 21B FF"

end ContractVerifier.Charset.Page
