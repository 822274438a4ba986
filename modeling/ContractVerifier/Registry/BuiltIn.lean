import ContractVerifier.Registry.Reader

set_option autoImplicit false

/-! # The built-in registry

The sources that are at hand without a registry file, and the choice between the built-in
registry and a configured file. A choice once made is kept until it is forgotten.
-/

namespace ContractVerifier.Registry

/-- The interface that a contract implements to tell which interfaces it implements. -/
def interfaceDetection : String :=
  "/**
 * @dev Interface of the ERC-165 standard, as defined in the
 * https://eips.ethereum.org/EIPS/eip-165[ERC].
 *
 * Implementers can declare support of contract interfaces, which can then be
 * queried by others (\x7bERC165Checker\x7d).
 *
 * For an implementation, see \x7bERC165\x7d.
 */
interface IERC165 \x7b
    /**
     * @dev Returns true if this contract implements the interface defined by
     * `interfaceId`. See the corresponding
     * https://eips.ethereum.org/EIPS/eip-165#how-interfaces-are-identified[ERC section]
     * to learn more about how these ids are created.
     *
     * This function call must use less than 30 000 gas.
     */
    function supportsInterface(bytes4 interfaceId) external view returns (bool);
\x7d"

/-- The base contract through which a contract asks who calls it, and with what. -/
def callContext : String :=
  "/**
 * @dev Provides information about the current execution context, including the
 * sender of the transaction and its data. While these are generally available
 * via msg.sender and msg.data, they should not be accessed in such a direct
 * manner, since when dealing with meta-transactions the account sending and
 * paying for execution may not be the actual sender (as far as an application
 * is concerned).
 *
 * This contract is only required for intermediate, library-like contracts.
 */
abstract contract Context \x7b
    function _msgSender() internal view virtual returns (address) \x7b
        return msg.sender;
    \x7d

    function _msgData() internal view virtual returns (bytes calldata) \x7b
        return msg.data;
    \x7d

    function _contextSuffixLength() internal view virtual returns (uint256) \x7b
        return 0;
    \x7d
\x7d"

/-- The built-in registry. -/
def builtIn : Registry :=
  ofEntries "openzeppelin-contracts".toList "5.0".toList
    [("import \x7bIERC165\x7d from \"../../utils/introspection/IERC165.sol\";".toList,
        interfaceDetection.toList),
     ("import \x7bContext\x7d from \"../utils/Context.sol\";".toList, callContext.toList)]

/-- The registry in use, if one was chosen. -/
abbrev Chosen := Option Registry

/-- Chooses a registry if none was chosen: the configured file, or the built-in registry if
no file is configured, an empty path being none. A file that cannot be read, with values nested
`depth` deep at most, leaves the choice open. -/
def choose (t : Tree) (path : Option Text) (chosen : Chosen) (depth : Nat := Json.usualDepth) :
    Except Fault Registry × Chosen :=
  match chosen with
  | some r => (.ok r, some r)
  | none =>
    match path.filter (· ≠ []) with
    | none => (.ok builtIn, some builtIn)
    | some p =>
      match load t p depth with
      | .ok r => (.ok r, some r)
      | .error e => (.error e, none)

/-- The registry chosen with none configured. -/
theorem choose_none_none (t : Tree) (depth : Nat) :
    choose t none none depth = (.ok builtIn, some builtIn) := rfl

/-- A choice is kept. -/
theorem choose_some (t : Tree) (path : Option Text) (r : Registry) (depth : Nat) :
    choose t path (some r) depth = (.ok r, some r) := rfl

end ContractVerifier.Registry
