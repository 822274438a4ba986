import ContractVerifier.Charset.Page.Basic

set_option autoImplicit false

/-! # Pages: Regional

Arrangements for single countries and devices.
-/

namespace ContractVerifier.Charset.Page

/-- The page `hp-roman8`. -/
def hpRoman8 : Page := ofTable
  "80 81 82 83 84 85 86 87 88 89 8A 8B 8C 8D 8E 8F 90 91 92 93 94 95 96 97 98 99 9A 9B 9C 9D 9E
   9F A0 C0 C2 C8 CA CB CE CF B4 2CB 2C6 A8 2DC D9 DB 20A4 AF DD FD B0 C7 E7 D1 F1 A1 BF A4 A3
   A5 A7 192 A2 E2 EA F4 FB E1 E9 F3 FA E0 E8 F2 F9 E4 EB F6 FC C5 EE D8 C6 E5 ED F8 E6 C4 EC
   D6 DC C9 EF DF D4 C1 C3 E3 D0 F0 CD CC D3 D2 D5 F5 160 161 DA 178 FF DE FE B7 B5 B6 BE 2014
   BC BD AA BA AB 25A0 BB B1 FFFD"

/-- The page `koi8-r`. -/
def koi8R : Page := ofTable
  "2500 2502 250C 2510 2514 2518 251C 2524 252C 2534 253C 2580 2584 2588 258C 2590 2591 2592
   2593 2320 25A0 2219 221A 2248 2264 2265 A0 2321 B0 B2 B7 F7 2550 2551 2552 451 2553 2554
   2555 2556 2557 2558 2559 255A 255B 255C 255D 255E 255F 2560 2561 401 2562 2563 2564 2565
   2566 2567 2568 2569 256A 256B 256C A9 44E 430 431 446 434 435 444 433 445 438 439 43A 43B
   43C 43D 43E 43F 44F 440 441 442 443 436 432 44C 44B 437 448 44D 449 447 44A 42E 410 411 426
   414 415 424 413 425 418 419 41A 41B 41C 41D 41E 41F 42F 420 421 422 423 416 412 42C 42B 417
   428 42D 429 427 42A"

/-- The page `koi8-t`. -/
def koi8T : Page := ofTable
  "49B 493 201A 492 201E 2026 2020 2021 FFFD 2030 4B3 2039 4B2 4B7 4B6 FFFD 49A 2018 2019 201C
   201D 2022 2013 2014 FFFD 2122 FFFD 203A FFFD FFFD FFFD FFFD FFFD 4EF 4EE 451 A4 4E3 A6 A7
   FFFD FFFD FFFD AB AC AD AE FFFD B0 B1 B2 401 FFFD 4E2 B6 B7 FFFD 2116 FFFD BB FFFD FFFD FFFD
   A9 44E 430 431 446 434 435 444 433 445 438 439 43A 43B 43C 43D 43E 43F 44F 440 441 442 443
   436 432 44C 44B 437 448 44D 449 447 44A 42E 410 411 426 414 415 424 413 425 418 419 41A 41B
   41C 41D 41E 41F 42F 420 421 422 423 416 412 42C 42B 417 428 42D 429 427 42A"

/-- The page `koi8-u`. -/
def koi8U : Page := ofTable
  "2500 2502 250C 2510 2514 2518 251C 2524 252C 2534 253C 2580 2584 2588 258C 2590 2591 2592
   2593 2320 25A0 2219 221A 2248 2264 2265 A0 2321 B0 B2 B7 F7 2550 2551 2552 451 454 2554 456
   457 2557 2558 2559 255A 255B 491 255D 255E 255F 2560 2561 401 404 2563 406 407 2566 2567
   2568 2569 256A 490 256C A9 44E 430 431 446 434 435 444 433 445 438 439 43A 43B 43C 43D 43E
   43F 44F 440 441 442 443 436 432 44C 44B 437 448 44D 449 447 44A 42E 410 411 426 414 415 424
   413 425 418 419 41A 41B 41C 41D 41E 41F 42F 420 421 422 423 416 412 42C 42B 417 428 42D 429
   427 42A"

/-- The page `kz1048`. -/
def kz1048 : Page := ofTable
  "402 403 201A 453 201E 2026 2020 2021 20AC 2030 409 2039 40A 49A 4BA 40F 452 2018 2019 201C
   201D 2022 2013 2014 FFFD 2122 459 203A 45A 49B 4BB 45F A0 4B0 4B1 4D8 A4 4E8 A6 A7 401 A9
   492 AB AC AD AE 4AE B0 B1 406 456 4E9 B5 B6 B7 451 2116 493 BB 4D9 4A2 4A3 4AF 410 411 412
   413 414 415 416 417 418 419 41A 41B 41C 41D 41E 41F 420 421 422 423 424 425 426 427 428 429
   42A 42B 42C 42D 42E 42F 430 431 432 433 434 435 436 437 438 439 43A 43B 43C 43D 43E 43F 440
   441 442 443 444 445 446 447 448 449 44A 44B 44C 44D 44E 44F"

/-- The page `palmos`. -/
def palmos : Page := ofTable
  "20AC 81 201A 192 201E 2026 2020 2021 2C6 2030 160 2039 152 2666 2663 2665 2660 2018 2019
   201C 201D 2022 2013 2014 2DC 2122 161 9B 153 9D 9E 178 A0 A1 A2 A3 A4 A5 A6 A7 A8 A9 AA AB
   AC AD AE AF B0 B1 B2 B3 B4 B5 B6 B7 B8 B9 BA BB BC BD BE BF C0 C1 C2 C3 C4 C5 C6 C7 C8 C9 CA
   CB CC CD CE CF D0 D1 D2 D3 D4 D5 D6 D7 D8 D9 DA DB DC DD DE DF E0 E1 E2 E3 E4 E5 E6 E7 E8 E9
   EA EB EC ED EE EF F0 F1 F2 F3 F4 F5 F6 F7 F8 F9 FA FB FC FD FE FF"

/-- The page `ptcp154`. -/
def ptcp154 : Page := ofTable
  "496 492 4EE 493 201E 2026 4B6 4AE 4B2 4AF 4A0 4E2 4A2 49A 4BA 4B8 497 2018 2019 201C 201D
   2022 2013 2014 4B3 4B7 4A1 4E3 4A3 49B 4BB 4B9 A0 40E 45E 408 4E8 498 4B0 A7 401 A9 4D8 AB
   AC 4EF AE 49C B0 4B1 406 456 499 4E9 B6 B7 451 2116 4D9 BB 458 4AA 4AB 49D 410 411 412 413
   414 415 416 417 418 419 41A 41B 41C 41D 41E 41F 420 421 422 423 424 425 426 427 428 429 42A
   42B 42C 42D 42E 42F 430 431 432 433 434 435 436 437 438 439 43A 43B 43C 43D 43E 43F 440 441
   442 443 444 445 446 447 448 449 44A 44B 44C 44D 44E 44F"

/-- The page `tis-620`. -/
def tis620 : Page := ofTable
  "80 81 82 83 84 85 86 87 88 89 8A 8B 8C 8D 8E 8F 90 91 92 93 94 95 96 97 98 99 9A 9B 9C 9D 9E
   9F FFFD E01 E02 E03 E04 E05 E06 E07 E08 E09 E0A E0B E0C E0D E0E E0F E10 E11 E12 E13 E14 E15
   E16 E17 E18 E19 E1A E1B E1C E1D E1E E1F E20 E21 E22 E23 E24 E25 E26 E27 E28 E29 E2A E2B E2C
   E2D E2E E2F E30 E31 E32 E33 E34 E35 E36 E37 E38 E39 E3A FFFD FFFD FFFD FFFD E3F E40 E41 E42
   E43 E44 E45 E46 E47 E48 E49 E4A E4B E4C E4D E4E E4F E50 E51 E52 E53 E54 E55 E56 E57 E58 E59
   E5A E5B FFFD FFFD FFFD FFFD"

end ContractVerifier.Charset.Page
